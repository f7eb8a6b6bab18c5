import PreparedSql.Query.Compile
import PreparedSql.Statement

/-! Statements that change rows: they act on one table under its own name, and an UPDATE or
DELETE is refused unless some condition bounds it. -/

namespace PreparedSql

/-- A value for a column of an UPDATE or INSERT. -/
structure Assignment where
  column : ColumnSpec
  value : Value
  deriving DecidableEq, Repr

/-- An assignment whose column is resolved. -/
structure Assigned where
  column : QualifiedColumn
  value : Value
  deriving DecidableEq, Repr

namespace Assigned

/-- A value is bound, NULL is written. -/
def placeholder (assigned : Assigned) : Fragment :=
  match assigned.value with
  | some datum => { sql := "?", binds := [⟨assigned.column.type, datum⟩] }
  | none => .text "NULL"

def setClause (assigned : Assigned) : Fragment :=
  .text (assigned.column.column.name ++ " = ") ++ assigned.placeholder

end Assigned

/-- Names are resolved on the table alone. -/
def Assignment.resolve (table : TableRef) (assignment : Assignment) :
    Except CompileError Assigned :=
  (assignment.column.resolve (some table) []).map fun column => ⟨column, assignment.value⟩

/-- All assignments on the table; there has to be one. -/
def resolveAssignments (mutation : Mutation) (table : TableRef)
    (assignments : List Assignment) : Except CompileError (List Assigned) :=
  if assignments.isEmpty then .error (.noAssignments mutation table.table.name)
  else assignments.mapM (·.resolve table)

/-- A statement over one table, if it is bounded. -/
def finishMutation (kind : StatementKind) (table : TableRef) (hasWhere : Bool)
    (fragment : Fragment) : Except CompileError Statement := do
  let statement : Statement :=
    { sql := fragment.sql
      binds := fragment.binds
      kind
      table := table.table.name
      hasWhere }
  statement.checkBounded
  return statement

namespace Query

/-- The one table to change: unaliased, without joins, and not a sub-query. -/
def mutationTarget (query : Query) (mutation : Mutation) : Except CompileError TableRef :=
  match query.source with
  | .table ref =>
      if ref.aliasName.isNone && query.joins.isEmpty then .ok ref
      else .error (.unsuitableSource mutation)
  | .derived _ _ => .error (.unsuitableSource mutation)

/-- The conditions of an UPDATE or DELETE see the one table. -/
def mutationScope (query : Query) (table : TableRef) : Scope :=
  { ignoreCase := query.foldsCase, table := some query.primary, sources := [table] }

/-- The WHERE condition of an UPDATE or DELETE, if the filters ask for anything. -/
def mutationCondition (query : Query) (dialect : Dialect) (table : TableRef) :
    Except CompileError (Option Fragment) :=
  conjunction query.filters
    (Predicate.compileAll dialect (query.mutationScope table) query.filters)

def updatePlan (query : Query) (assignments : List Assignment) (dialect : Dialect) :
    Except CompileError Statement := do
  let table ← query.mutationTarget .update
  let assigned ← resolveAssignments .update table assignments
  let condition ← query.mutationCondition dialect table
  finishMutation .update table condition.isSome <|
    .text ("UPDATE " ++ table.table.name ++ " SET ") ++
      .join ", " (assigned.map Assigned.setClause) ++
      conditionClause " WHERE " condition.toList

def deletePlan (query : Query) (dialect : Dialect) : Except CompileError Statement := do
  let table ← query.mutationTarget .delete
  let condition ← query.mutationCondition dialect table
  finishMutation .delete table condition.isSome <|
    .text ("DELETE FROM " ++ table.table.name) ++ conditionClause " WHERE " condition.toList

/-- Deletes every row; the filters are not consulted. -/
def deleteAllPlan (query : Query) : Except CompileError Statement := do
  let table ← query.mutationTarget .delete
  finishMutation .deleteAll table false (.text ("DELETE FROM " ++ table.table.name))

/-- Inserts a single row. -/
def insertPlan (query : Query) (assignments : List Assignment) :
    Except CompileError Statement := do
  let table ← query.mutationTarget .insert
  let assigned ← resolveAssignments .insert table assignments
  let names := assigned.map fun assigned => assigned.column.column.name
  finishMutation .insert table false <|
    .text ("INSERT INTO " ++ table.table.name ++ " (" ++ ", ".intercalate names ++ ") VALUES ") ++
      parenthesized (.join ", " (assigned.map Assigned.placeholder))

end Query

end PreparedSql
