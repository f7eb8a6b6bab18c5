import PreparedSql.Statement

/-! Handing statements to a database. An executor offers one call for statements that read and
one for statements that change rows, and a statement is passed to the call of its kind. -/

namespace PreparedSql

/-- The rows of a result, under the column names that the database reports. -/
structure RowSet where
  columns : List String
  rows : List (List Value)
  deriving DecidableEq, Repr, Inhabited

inductive Outcome where
  | rows (set : RowSet)
  /-- How many rows were changed. -/
  | affected (count : Nat)
  deriving DecidableEq, Repr

structure Executor (m : Type → Type) where
  fetchAll : Statement → m RowSet
  execute : Statement → m Nat

/-- Runs a statement by the call for its kind; an unbounded UPDATE or DELETE is not run. -/
def Executor.run {m : Type → Type} [Monad m] [MonadExceptOf CompileError m]
    (executor : Executor m) (statement : Statement) : m Outcome :=
  if statement.kind.isMutation then
    match statement.checkBounded with
    | .ok () => Outcome.affected <$> executor.execute statement
    | .error reason => throw reason
  else Outcome.rows <$> executor.fetchAll statement

end PreparedSql
