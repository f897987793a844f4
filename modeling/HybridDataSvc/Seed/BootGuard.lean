import HybridDataSvc.Seed.Migrations
import HybridDataSvc.Transition.Runs

namespace HybridDataSvc

open Relational Transition

/-!
# The check of the schema at a start

`assert_provider_schema` of `postgres.py`, which the writer and the gRPC
service run before anything else.  The migrations are applied by hand, each
statement is committed by itself, and one that fails does not keep the later
ones from running; so a start may find the tables at any stage.
-/

namespace Migrations

def TableName.text : TableName -> String
  | .bars => "bars"
  | .cacheMeta => "cache_meta"

/-- `{"bars", "cache_meta"}`, sorted. -/
def checkedTables : List TableName := [.bars, .cacheMeta]

/-- The tables that the query finds. -/
def have_ (schema : Schema) : List TableName :=
  checkedTables.filter (fun name =>
    (schema.uniques name).any (fun columns => columns.contains .provider))

/-- `raise RuntimeError`, where a table is missing. -/
def schemaOutOfDate : List TableName -> Except String Unit
  | [] => .ok ()
  | missing =>
    .error ("schema out of date: [" ++
      ", ".intercalate (missing.map (fun name => "'" ++ name.text ++ "'")) ++
      "] missing 'provider' in their PRIMARY KEY. " ++
      "Apply migrations/004_provider.sql before starting this service.")

theorem schemaOutOfDate_eq_ok_iff (missing : List TableName) :
    schemaOutOfDate missing = .ok () ↔ missing = [] := by
  cases missing with
  | nil => exact iff_of_true rfl rfl
  | cons name rest => exact iff_of_false (by intro same; cases same) (List.cons_ne_nil name rest)

/-- `assert_provider_schema`. -/
def assertProviderSchema (schema : Schema) : Except String Unit :=
  schemaOutOfDate (checkedTables.filter (fun name => !(have_ schema).contains name))

/-- The conflict targets of `_insert_bars`. -/
def upsertTarget : TableName -> List KeyColumn
  | .bars => [.symbol, .timeframe, .provider, .ts]
  | .cacheMeta => [.symbol, .timeframe, .provider]

/-- Whether Postgres takes the statements of `_insert_bars` on a table. -/
def takesUpserts (schema : Schema) (name : TableName) : Bool :=
  infersArbiter (schema.uniques name) (upsertTarget name)

/-! ## Migrations that were broken off -/

/-- The statements of the migrations. -/
def statements : List Statement := initBars ++ provider

/-- A statement that is committed by itself; one that fails changes nothing. -/
def executed (schema : Schema) (statement : Statement) : Schema :=
  (apply schema statement).getD schema

def Statement.table : Statement -> TableName
  | .createTable name _ _ => name
  | .addColumn name _ => name
  | .dropPrimaryKey name => name
  | .addPrimaryKey name _ => name

/-- What a statement writes into its table; nothing where it fails or has nothing to do. -/
def writes (table : Option TableSchema) : Statement -> Option TableSchema
  | .createTable _ columns primaryKey =>
    if table.isSome then none else some ⟨columns, some primaryKey⟩
  | .addColumn _ column =>
    table.bind (fun table =>
      if column ∈ table.columns then none
      else some { table with columns := table.columns ++ [column] })
  | .dropPrimaryKey _ => table.map (fun table => { table with primaryKey := none })
  | .addPrimaryKey _ columns =>
    table.bind (fun table =>
      if table.primaryKey.isNone && columns.all (fun column => decide (column ∈ table.columns)) then
        some { table with primaryKey := some columns }
      else none)

@[simp] theorem Schema.table_setTable (schema : Schema) (name : TableName) (table : TableSchema) :
    (schema.setTable name table).table name = some table := by
  cases name <;> rfl

theorem Schema.table_setTable_of_ne (schema : Schema) {name other : TableName}
    (different : other ≠ name) (table : TableSchema) :
    (schema.setTable name table).table other = schema.table other := by
  cases name <;> cases other <;> first | rfl | exact absurd rfl different

theorem executed_eq (schema : Schema) (statement : Statement) :
    executed schema statement =
      (writes (schema.table statement.table) statement).elim schema
        (schema.setTable statement.table) := by
  unfold executed
  cases statement with
  | createTable name columns primaryKey =>
      cases known : schema.table name <;> simp [apply, writes, Statement.table, known]
  | addColumn name column =>
      cases known : schema.table name with
      | none => simp [apply, writes, Statement.table, known]
      | some table =>
          by_cases here : column ∈ table.columns <;>
            simp [apply, writes, Statement.table, known, here]
  | dropPrimaryKey name =>
      cases known : schema.table name <;> simp [apply, writes, Statement.table, known]
  | addPrimaryKey name columns =>
      cases known : schema.table name with
      | none => simp [apply, writes, Statement.table, known]
      | some table =>
          simp only [apply, writes, Statement.table, known, Option.bind_some]
          split <;> rfl

theorem executed_table (schema : Schema) (statement : Statement) :
    (executed schema statement).table statement.table =
      (writes (schema.table statement.table) statement).or (schema.table statement.table) := by
  rw [executed_eq]
  cases writes (schema.table statement.table) statement with
  | none => rfl
  | some table => exact schema.table_setTable statement.table table

theorem executed_table_of_ne (schema : Schema) {statement : Statement} {name : TableName}
    (different : name ≠ statement.table) :
    (executed schema statement).table name = schema.table name := by
  rw [executed_eq]
  cases writes (schema.table statement.table) statement with
  | none => rfl
  | some table => exact schema.table_setTable_of_ne different table

/-! ## The stages of a table -/

/-- The columns and the key that `001_init_bars.sql` gives a table. -/
def baseColumns : TableName -> List KeyColumn
  | .bars => [.symbol, .timeframe, .ts]
  | .cacheMeta => [.symbol, .timeframe]

/-- What a table can be while the migrations have been executed in part. -/
def stages (name : TableName) : List (Option TableSchema) :=
  [none,
    some ⟨baseColumns name, some (baseColumns name)⟩,
    some ⟨baseColumns name, none⟩,
    some ⟨baseColumns name ++ [.provider], some (baseColumns name)⟩,
    some ⟨baseColumns name ++ [.provider], none⟩,
    some ⟨baseColumns name ++ [.provider], some (upsertTarget name)⟩]

def Staged (schema : Schema) : Prop := forall name, schema.table name ∈ stages name

theorem writes_mem_stages {statement : Statement} (own : statement ∈ statements) :
    forall table, table ∈ stages statement.table ->
      (writes table statement).or table ∈ stages statement.table := by
  revert statement
  decide

theorem Staged.executed {schema : Schema} (staged : Staged schema) {statement : Statement}
    (own : statement ∈ statements) : Staged (executed schema statement) := by
  intro name
  by_cases same : name = statement.table
  · rw [same, executed_table]
    exact writes_mem_stages own _ (staged statement.table)
  · rw [executed_table_of_ne schema same]
    exact staged name

theorem Staged.run {run : List Statement}
    (own : forall statement, statement ∈ run -> statement ∈ statements) :
    Staged (Transition.run Migrations.executed Schema.empty run) :=
  invariant_run Migrations.executed (fun _ _ staged own => staged.executed own)
    (fun name => by cases name <;> exact List.mem_cons_self)
    (along_of_forall Migrations.executed own)

/-- At every stage the key has the column exactly where it is the conflict target. -/
theorem contains_provider_eq {name : TableName} :
    forall table, table ∈ stages name ->
      ((table.bind TableSchema.primaryKey).toList.any
          (fun columns => columns.contains .provider)) =
        infersArbiter (table.bind TableSchema.primaryKey).toList (upsertTarget name) := by
  cases name <;> decide

theorem Staged.have_eq {schema : Schema} (staged : Staged schema) :
    have_ schema = checkedTables.filter (takesUpserts schema) := by
  unfold have_
  congr 1
  funext name
  exact contains_provider_eq _ (staged name)

/-- The check fails exactly where a statement of `_insert_bars` would, and names the
tables that would refuse it. -/
theorem Staged.assertProviderSchema_eq {schema : Schema} (staged : Staged schema) :
    assertProviderSchema schema =
      schemaOutOfDate (checkedTables.filter (fun name => !takesUpserts schema name)) := by
  unfold assertProviderSchema
  rw [staged.have_eq]
  congr 2
  funext name
  cases name <;> simp [checkedTables, List.contains_eq_mem]

/-- Whatever was executed of them, the migrations can be run again, to the end. -/
theorem Staged.migrate_eq {schema : Schema} (staged : Staged schema) :
    migrate schema = some current := by
  have all : forall bars, bars ∈ stages .bars -> forall cacheMeta, cacheMeta ∈ stages .cacheMeta ->
      migrate ⟨bars, cacheMeta⟩ = some current := by decide
  exact all _ (staged .bars) _ (staged .cacheMeta)

/-- However far the migrations were executed, in whatever order and how often, and whichever
statements failed: the services start exactly where Postgres takes the statements of
`_insert_bars`, the error names the tables on which it does not, and after the migrations
have been run once more they start. -/
theorem boot_guard {run : List Statement}
    (own : forall statement, statement ∈ run -> statement ∈ statements) :
    assertProviderSchema (Transition.run executed Schema.empty run) =
        schemaOutOfDate (checkedTables.filter (fun name =>
          !takesUpserts (Transition.run executed Schema.empty run) name)) ∧
      (assertProviderSchema (Transition.run executed Schema.empty run) = .ok () ↔
        forall name, takesUpserts (Transition.run executed Schema.empty run) name = true) ∧
      exists migrated, migrate (Transition.run executed Schema.empty run) = some migrated ∧
        assertProviderSchema migrated = .ok () := by
  have staged : Staged (Transition.run executed Schema.empty run) := Staged.run own
  refine ⟨staged.assertProviderSchema_eq, ?_, current, staged.migrate_eq, by decide⟩
  rw [staged.assertProviderSchema_eq, schemaOutOfDate_eq_ok_iff, List.filter_eq_nil_iff]
  constructor
  · intro taken name
    have here : name ∈ checkedTables := by cases name <;> decide
    have kept := taken name here
    rwa [Bool.not_eq_true, Bool.not_eq_false'] at kept
  · intro taken name _
    rw [taken name]
    exact Bool.false_ne_true

/-- A run of `004_provider.sql` that was broken off within the second table. -/
def brokenOff : List Statement := initBars ++ provider.take 5

theorem boot_guard_brokenOff :
    assertProviderSchema (Transition.run executed Schema.empty brokenOff) =
        .error ("schema out of date: ['cache_meta'] missing 'provider' in their PRIMARY KEY. " ++
          "Apply migrations/004_provider.sql before starting this service.") ∧
      exists migrated, migrate (Transition.run executed Schema.empty brokenOff) = some migrated ∧
        assertProviderSchema migrated = .ok () := by
  have own : forall statement, statement ∈ brokenOff -> statement ∈ statements := by decide
  have guard := boot_guard own
  exact ⟨by decide, guard.2.2⟩

end Migrations

end HybridDataSvc
