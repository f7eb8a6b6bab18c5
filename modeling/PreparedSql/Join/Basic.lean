import PreparedSql.Reference

/-! Joins on equal columns, and joins that follow a named relation. -/

namespace PreparedSql

/-- An implicit join lists both tables in FROM and puts its condition into WHERE. -/
inductive JoinKind where
  | implicit
  | inner
  | left
  | right
  deriving DecidableEq, Repr, Inhabited

def JoinKind.keyword? : JoinKind → Option String
  | .implicit => none
  | .inner => some "INNER JOIN"
  | .left => some "LEFT JOIN"
  | .right => some "RIGHT JOIN"

/-- A left and a right column that a join requires to be equal. -/
structure ColumnPair where
  left : QualifiedColumn
  right : QualifiedColumn
  deriving DecidableEq, Repr, Inhabited

/-- A join on one pair of columns or more. The first pair says which tables are joined. -/
structure Join where
  kind : JoinKind
  first : ColumnPair
  more : List ColumnPair := []
  deriving DecidableEq, Repr, Inhabited

/-- The relation that a join follows, from the table of an earlier join of the same query or,
without one, from the primary table. -/
structure Hop where
  relation : String
  previous : Option Nat := none
  deriving DecidableEq, Repr, Inhabited

/-- A join of a query; it is a relation join when it has a hop. -/
structure JoinEntry where
  join : Join
  hop : Option Hop := none
  deriving DecidableEq, Repr, Inhabited

namespace ColumnPair

def sql (pair : ColumnPair) : String :=
  pair.left.sql ++ "=" ++ pair.right.sql

def foldedSql (dialect : Dialect) (pair : ColumnPair) : String :=
  pair.left.foldedSql dialect ++ "=" ++ pair.right.foldedSql dialect

end ColumnPair

namespace Join

def pairs (join : Join) : List ColumnPair :=
  join.first :: join.more

def leftTable (join : Join) : TableRef :=
  join.first.left.table

def rightTable (join : Join) : TableRef :=
  join.first.right.table

def isImplicit (join : Join) : Bool :=
  join.kind == .implicit

/-- All pairs are equal; on request ignoring the case of text columns. -/
def condition (dialect : Dialect) (ignoreCase : Bool) (join : Join) : String :=
  " AND ".intercalate
    (join.pairs.map fun pair => if ignoreCase then pair.foldedSql dialect else pair.sql)

/-- The JOIN clause of an explicit join. Its condition compares as written. -/
def clause? (dialect : Dialect) (join : Join) : Option String :=
  join.kind.keyword?.map fun keyword =>
    keyword ++ " " ++ join.rightTable.fromSql ++ " ON (" ++ join.condition dialect false ++ ")"

end Join

end PreparedSql
