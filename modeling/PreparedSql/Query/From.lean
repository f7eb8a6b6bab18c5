import PreparedSql.Fragment
import PreparedSql.Query.Layout

/-! The FROM clause. Tables of implicit joins stand beside the primary source in the comma
list, each key once, unless an explicit join introduces them. -/

namespace PreparedSql

namespace Query

/-- The tables of the implicit joins, as often as they occur. -/
def implicitTables (query : Query) : List TableRef :=
  (query.joins.filter (·.join.isImplicit)).flatMap JoinEntry.tables

def explicitJoins (query : Query) : List Join :=
  (query.joins.map JoinEntry.join).filter (!·.isImplicit)

def isJoined (query : Query) (key : SourceKey) : Bool :=
  query.explicitJoins.any (·.rightTable.key == key)

/-- The tables listed behind the primary source. -/
def listedTables (query : Query) : List TableRef :=
  ((addSources [query.primary] query.implicitTables).drop 1).filter fun ref =>
    !query.isJoined ref.key

/-- The first explicit join whose right table is the primary source once more. -/
def joinedPrimary? (query : Query) : Option Join :=
  query.explicitJoins.find? (·.rightTable.key == query.primary.key)

/-- The JOIN clauses, in the order of the joins. -/
def joinClauses (query : Query) (dialect : Dialect) : List String :=
  query.joins.filterMap fun entry => entry.join.clause? dialect

/-- The conditions of the implicit joins, which go to WHERE. -/
def implicitConditions (query : Query) (dialect : Dialect) : List String :=
  (query.joins.filter (·.join.isImplicit)).map fun entry =>
    entry.join.condition dialect query.foldsCase

/-- The comma list and the JOIN clauses, given how the primary source is written. -/
def fromClause (query : Query) (dialect : Dialect) (origin : Fragment) :
    Except CompileError Fragment :=
  match query.joinedPrimary? with
  | some join => .error (.joinedPrimary join.rightTable.label)
  | none => .ok <|
      .join ", " (origin :: query.listedTables.map fun ref => .text ref.fromSql) ++
        .text (String.join ((query.joinClauses dialect).map (" " ++ ·)))

end Query

end PreparedSql
