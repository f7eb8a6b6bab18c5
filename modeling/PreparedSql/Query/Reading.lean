import PreparedSql.Query.Compile
import PreparedSql.Statement

/-! Statements that read: the rows of a query, and how many there are. -/

namespace PreparedSql

/-- A SELECT together with what is needed to read its rows. -/
structure SelectPlan where
  statement : Statement
  layout : List Slot
  primary : TableRef
  joins : List JoinEntry
  deriving DecidableEq, Repr

namespace Query

def selectPlan (query : Query) (dialect : Dialect) : Except CompileError SelectPlan := do
  let body ← query.body dialect
  let fragment ← query.selectWith dialect body
  return {
    statement :=
      { sql := fragment.sql
        binds := fragment.binds
        kind := .select
        table := query.primary.label
        hasWhere := body.hasWhere }
    layout := body.layout
    primary := query.primary
    joins := query.joins }

/-- Clauses that change which rows there are to count: with one of them the SELECT itself has to
be counted. -/
def countsRows (query : Query) : Bool :=
  query.isDistinct || !query.grouping.isEmpty || !query.havings.isEmpty ||
    query.hasLimitOrOffset

/-- The number of rows. The body is counted directly unless some clause acts on whole rows. -/
def countPlan (query : Query) (dialect : Dialect) : Except CompileError Statement := do
  let body ← query.body dialect
  let fragment ←
    if query.countsRows then do
      let selected ← query.selectWith dialect body
      pure (.text "SELECT COUNT(*) FROM " ++ parenthesized selected ++
        .text " AS count_subquery")
    else
      pure (.text "SELECT COUNT(*)" ++ body.clauses)
  return {
    sql := fragment.sql
    binds := fragment.binds
    kind := .count
    table := query.primary.label
    hasWhere := body.hasWhere }

end Query

end PreparedSql
