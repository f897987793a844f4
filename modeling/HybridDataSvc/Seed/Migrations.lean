import HybridDataSvc.Relational.Conflict
import Mathlib.Data.List.Basic

namespace HybridDataSvc

open Relational

/-!
# The migrations of the bar tables

What the migrations 001 to 004 do to the keys of `bars` and `cache_meta`.  The
second and the third one touch neither table, and their indexes are not
unique.
-/

namespace Migrations

/-- The columns that keys are made of. -/
inductive KeyColumn
  | symbol
  | timeframe
  | provider
  | ts
  deriving DecidableEq, Repr

inductive TableName
  | bars
  | cacheMeta
  deriving DecidableEq, Repr

structure TableSchema where
  columns : List KeyColumn
  primaryKey : Option (List KeyColumn)
  deriving DecidableEq, Repr

/-- The two tables, where they have been created. -/
structure Schema where
  bars : Option TableSchema
  cacheMeta : Option TableSchema
  deriving DecidableEq, Repr

namespace Schema

/-- A database without tables. -/
def empty : Schema := ⟨none, none⟩

def table (schema : Schema) : TableName -> Option TableSchema
  | .bars => schema.bars
  | .cacheMeta => schema.cacheMeta

def setTable (schema : Schema) (name : TableName) (table : TableSchema) : Schema :=
  match name with
  | .bars => { schema with bars := some table }
  | .cacheMeta => { schema with cacheMeta := some table }

/-- The unique constraints of a table. -/
def uniques (schema : Schema) (name : TableName) : List (List KeyColumn) :=
  ((schema.table name).bind TableSchema.primaryKey).toList

end Schema

/-- The statements of the migrations. -/
inductive Statement
  /-- `CREATE TABLE IF NOT EXISTS`. -/
  | createTable (name : TableName) (columns primaryKey : List KeyColumn)
  /-- `ALTER TABLE ... ADD COLUMN IF NOT EXISTS`. -/
  | addColumn (name : TableName) (column : KeyColumn)
  /-- `ALTER TABLE ... DROP CONSTRAINT IF EXISTS` of the primary key. -/
  | dropPrimaryKey (name : TableName)
  /-- `ALTER TABLE ... ADD PRIMARY KEY`. -/
  | addPrimaryKey (name : TableName) (columns : List KeyColumn)
  deriving DecidableEq, Repr

/-- The schema after a statement, unless the statement fails. -/
def apply (schema : Schema) : Statement -> Option Schema
  | .createTable name columns primaryKey =>
    match schema.table name with
    | some _ => some schema
    | none => some (schema.setTable name ⟨columns, some primaryKey⟩)
  | .addColumn name column =>
    match schema.table name with
    | none => none
    | some table =>
      if column ∈ table.columns then some schema
      else some (schema.setTable name { table with columns := table.columns ++ [column] })
  | .dropPrimaryKey name =>
    match schema.table name with
    | none => none
    | some table => some (schema.setTable name { table with primaryKey := none })
  | .addPrimaryKey name columns =>
    match schema.table name with
    | none => none
    | some table =>
      if table.primaryKey.isNone && columns.all (fun column => decide (column ∈ table.columns)) then
        some (schema.setTable name { table with primaryKey := some columns })
      else none

/-- `001_init_bars.sql`. -/
def initBars : List Statement :=
  [.createTable .bars [.symbol, .timeframe, .ts] [.symbol, .timeframe, .ts],
   .createTable .cacheMeta [.symbol, .timeframe] [.symbol, .timeframe]]

/-- `004_provider.sql`. -/
def provider : List Statement :=
  [.addColumn .bars .provider,
   .dropPrimaryKey .bars,
   .addPrimaryKey .bars [.symbol, .timeframe, .provider, .ts],
   .addColumn .cacheMeta .provider,
   .dropPrimaryKey .cacheMeta,
   .addPrimaryKey .cacheMeta [.symbol, .timeframe, .provider]]

/-- All migrations in their order. -/
def migrate (schema : Schema) : Option Schema := (initBars ++ provider).foldlM apply schema

/-- The schemas of databases on which the migrations have been applied, once or
again. -/
inductive Migrated : Schema -> Prop
  | first {schema : Schema} (done : migrate Schema.empty = some schema) : Migrated schema
  | again {before schema : Schema} (migrated : Migrated before)
      (done : migrate before = some schema) : Migrated schema

/-- The schema the migrations lead to. -/
def current : Schema where
  bars := some ⟨[.symbol, .timeframe, .ts, .provider], some [.symbol, .timeframe, .provider, .ts]⟩
  cacheMeta := some ⟨[.symbol, .timeframe, .provider], some [.symbol, .timeframe, .provider]⟩

/-- The migrations are safe to run again. -/
theorem Migrated.eq_current {schema : Schema} (migrated : Migrated schema) : schema = current := by
  induction migrated with
  | first done =>
      have once : migrate Schema.empty = some current := by decide
      exact Option.some.inj (done.symm.trans once)
  | again _ done ih =>
      have twice : migrate current = some current := by decide
      rw [ih] at done
      exact Option.some.inj (done.symm.trans twice)

theorem Migrated.uniques_bars {schema : Schema} (migrated : Migrated schema) :
    schema.uniques .bars = [[.symbol, .timeframe, .provider, .ts]] := by
  rw [migrated.eq_current]
  rfl

end Migrations

end HybridDataSvc
