import PreparedSql.Join.Chain
import PreparedSql.Predicate.Build
import PreparedSql.Predicate.Test
import PreparedSql.Query.From

/-! Compiling queries and predicates to SQL. The clauses come in a fixed order, and each brings
its parameters along with its text, so that a parameter's place is that of its placeholder. -/

namespace PreparedSql

/-- What follows the SELECT list up to HAVING, which selecting and counting have in common. -/
structure Body where
  layout : List Slot
  clauses : Fragment
  hasWhere : Bool
  deriving DecidableEq, Repr

/-- A keyword and the conditions behind it, if there are any. -/
def conditionClause (keyword : String) : List Fragment → Fragment
  | [] => .text ""
  | conditions => .text keyword ++ .join " AND " conditions

/-- The AND over a list of predicates, or nothing when no test is among them. -/
def conjunction (predicates : List Predicate) (pieces : Except CompileError (List Fragment)) :
    Except CompileError (Option Fragment) :=
  if Predicate.allEmpty predicates then .ok none
  else pieces.map fun fragments => some (Connective.and.combine fragments)

namespace Query

def scope (query : Query) : Scope :=
  { ignoreCase := query.foldsCase
    table := some query.primary
    sources := query.sources }

def groupClause (query : Query) : Except CompileError String :=
  match query.grouping with
  | [] => .ok ""
  | specs => (specs.mapM query.resolve).map fun columns =>
      " GROUP BY " ++ ", ".intercalate (columns.map QualifiedColumn.sql)

/-- A text column is folded when the query ignores case; verbatim SQL never is. -/
def orderSql (query : Query) (dialect : Dialect) : OrderTarget → Except CompileError String
  | .column spec => (query.resolve spec).map fun column =>
      if query.foldsCase && column.isText then dialect.foldOrder column.sql else column.sql
  | .raw sql => .ok sql

def orderClause (query : Query) (dialect : Dialect) : Except CompileError String :=
  match query.ordering with
  | [] => .ok ""
  | entries => do
      let keys ← entries.mapM fun entry =>
        (query.orderSql dialect entry.target).map (· ++ " " ++ entry.direction.keyword)
      return " ORDER BY " ++ ", ".intercalate keys

def selectList (query : Query) (layout : List Slot) : String :=
  (if query.isDistinct then "DISTINCT " else "") ++ ", ".intercalate (layout.map Slot.sql)

/-- The SELECT with the given body: the SELECT list in front, order and limit behind. -/
def selectWith (query : Query) (dialect : Dialect) (body : Body) :
    Except CompileError Fragment := do
  let ordering ← query.orderClause dialect
  let limiting ← dialect.limiting query.rowLimit query.rowOffset
  return .text ("SELECT " ++ query.selectList body.layout) ++ body.clauses ++
    .text (ordering ++ limiting)

/-- The query inside another statement. -/
def nested (query : Query) (dialect : Dialect) (body : Except CompileError Body) :
    Except CompileError Fragment :=
  body.bind (query.selectWith dialect)

end Query

mutual

/-- A test in the scope that its settings make. -/
def Test.compile (dialect : Dialect) (scope : Scope) : Test → Except CompileError Fragment
  | .compareValue spec operator value => do
      let column ← scope.resolve spec
      valueTest dialect scope.ignoreCase column operator value
  | .compareRaw spec operator sql => do
      let column ← scope.resolve spec
      return rawTest column operator sql
  | .compareQuery spec operator query => do
      let column ← scope.resolve spec
      let nested ← query.nested dialect (query.body dialect)
      return queryTest column operator.sql nested
  | .inList spec operator values => do
      let column ← scope.resolve spec
      listTest column operator values
  | .inQuery spec operator query => do
      let column ← scope.resolve spec
      dialect.checkMembership query.hasLimitOrOffset
      let nested ← query.nested dialect (query.body dialect)
      return queryTest column operator.sql nested
  | .raw sql => .ok (.text sql)

/-- A predicate in the scope around it. -/
def Predicate.compile (dialect : Dialect) (scope : Scope) :
    Predicate → Except CompileError Fragment
  | .leaf settings test => test.compile dialect (scope.enter settings)
  | .node settings connective children => do
      let pieces ← Predicate.compileAll dialect (scope.enter settings) children
      return connective.combine pieces

def Predicate.compileAll (dialect : Dialect) (scope : Scope) :
    List Predicate → Except CompileError (List Fragment)
  | [] => .ok []
  | child :: children => do
      let piece ← child.compile dialect scope
      let pieces ← Predicate.compileAll dialect scope children
      return piece :: pieces

/-- The primary source as FROM introduces it. -/
def Source.compile (dialect : Dialect) : Source → Except CompileError Fragment
  | .table ref => .ok (.text ref.fromSql)
  | .derived ref query => do
      dialect.checkDerivedTable
      let nested ← query.nested dialect (query.body dialect)
      return parenthesized nested ++ .text (" AS " ++ ref.table.name)

/-- The clauses from FROM to HAVING. -/
def Query.body (dialect : Dialect) : Query → Except CompileError Body
  | query@{ source, filters, havings, .. } => do
      Chain.check query.joins
      let layout ← query.layout
      let origin ← source.compile dialect
      let introduced ← query.fromClause dialect origin
      let filter ← conjunction filters (Predicate.compileAll dialect query.scope filters)
      let grouping ← query.groupClause
      let having ← conjunction havings (Predicate.compileAll dialect query.scope havings)
      let conditions := (query.implicitConditions dialect).map .text ++ filter.toList
      return {
        layout
        clauses := .text " FROM " ++ introduced ++ conditionClause " WHERE " conditions ++
          .text grouping ++ conditionClause " HAVING " having.toList
        hasWhere := !conditions.isEmpty }

end

/-- A predicate on its own; an empty tree has no text. -/
def Predicate.build (predicate : Predicate) (dialect : Dialect) :
    Except CompileError Fragment :=
  if predicate.isEmpty then .ok (.text "") else predicate.compile dialect {}

/-- The body in terms of the query's fields. -/
theorem Query.body_eq (dialect : Dialect) (query : Query) :
    query.body dialect = (do
      Chain.check query.joins
      let layout ← query.layout
      let origin ← query.source.compile dialect
      let introduced ← query.fromClause dialect origin
      let filter ← conjunction query.filters
        (Predicate.compileAll dialect query.scope query.filters)
      let grouping ← query.groupClause
      let having ← conjunction query.havings
        (Predicate.compileAll dialect query.scope query.havings)
      let conditions := (query.implicitConditions dialect).map .text ++ filter.toList
      return {
        layout
        clauses := .text " FROM " ++ introduced ++ conditionClause " WHERE " conditions ++
          .text grouping ++ conditionClause " HAVING " having.toList
        hasWhere := !conditions.isEmpty }) := by
  cases query
  rfl

end PreparedSql
