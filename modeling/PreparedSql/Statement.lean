import PreparedSql.Bind.Interpolate
import PreparedSql.Error

/-! Finished statements: SQL text with `?` placeholders, and the parameters in their order. -/

namespace PreparedSql

inductive StatementKind where
  | select
  | count
  | insert
  | update
  | delete
  /-- A DELETE of every row, asked for as such. -/
  | deleteAll
  deriving DecidableEq, Repr, Inhabited

structure Statement where
  sql : String
  binds : List Bind
  kind : StatementKind
  /-- The name or alias of the primary source. -/
  table : String
  hasWhere : Bool
  deriving DecidableEq, Repr, Inhabited

namespace StatementKind

/-- What a statement of the kind changes rows by, if it does. -/
def mutation? : StatementKind → Option Mutation
  | .select | .count => none
  | .insert => some .insert
  | .update => some .update
  | .delete | .deleteAll => some .delete

def isMutation (kind : StatementKind) : Bool :=
  kind.mutation?.isSome

def keyword (kind : StatementKind) : String :=
  match kind.mutation? with
  | some mutation => mutation.keyword
  | none => "SELECT"

end StatementKind

namespace Statement

def interpolated (statement : Statement) : String :=
  interpolate statement.sql statement.binds

/-- An UPDATE or DELETE has to carry a condition; a delete of all rows says so by its kind. -/
def checkBounded (statement : Statement) : Except CompileError Unit :=
  match statement.kind with
  | .update =>
      if statement.hasWhere then .ok () else .error (.unboundedMutation .update statement.table)
  | .delete =>
      if statement.hasWhere then .ok () else .error (.unboundedMutation .delete statement.table)
  | _ => .ok ()

end Statement

end PreparedSql
