import PreparedSql.Join.Basic
import PreparedSql.Operator
import PreparedSql.Value.Basic

/-! Queries and the predicates in them. A predicate is a tree of tests under AND and OR; a test
may compare a column with a query, and a query may read from another query, so the types are
defined together. -/

namespace PreparedSql

/-- What a node of a predicate says for itself and the nodes below: whether text is compared
ignoring case, and the table on which bare column names are looked up. -/
structure NodeSettings where
  ignoreCase : Option Bool := none
  table : Option TableRef := none
  deriving DecidableEq, Repr, Inhabited

inductive SelectEntry where
  /-- Every column of a table. -/
  | all (table : TableRef)
  | column (spec : ColumnSpec)
  | raw (sql : String)
  deriving DecidableEq, Repr

inductive Direction where
  | ascending
  | descending
  deriving DecidableEq, Repr, Inhabited

def Direction.keyword : Direction → String
  | .ascending => "ASC"
  | .descending => "DESC"

inductive OrderTarget where
  | column (spec : ColumnSpec)
  | raw (sql : String)
  deriving DecidableEq, Repr

structure OrderEntry where
  target : OrderTarget
  direction : Direction
  deriving DecidableEq, Repr

mutual

/-- A single condition. -/
inductive Test where
  | compareValue (column : ColumnSpec) (operator : Comparison) (value : Value)
  | compareRaw (column : ColumnSpec) (operator : Comparison) (sql : String)
  | compareQuery (column : ColumnSpec) (operator : Comparison) (query : Query)
  | inList (column : ColumnSpec) (operator : Membership) (values : List Value)
  | inQuery (column : ColumnSpec) (operator : Membership) (query : Query)
  | raw (sql : String)

inductive Predicate where
  | leaf (settings : NodeSettings) (test : Test)
  | node (settings : NodeSettings) (connective : Connective) (children : List Predicate)

/-- Where the rows come from: a table, or a query whose columns are those of the given derived
table. -/
inductive Source where
  | table (ref : TableRef)
  | derived (ref : TableRef) (query : Query)

structure Query where
  schema : Schema
  source : Source
  /-- The conditions of WHERE, all of which have to hold. -/
  filters : List Predicate := []
  /-- The conditions of HAVING, all of which have to hold. -/
  havings : List Predicate := []
  joins : List JoinEntry := []
  /-- The SELECT list; when it is empty the primary table's columns are selected. -/
  selection : List SelectEntry := []
  isDistinct : Bool := false
  grouping : List ColumnSpec := []
  ordering : List OrderEntry := []
  rowLimit : Option Nat := none
  rowOffset : Option Nat := none
  /-- Text is compared and sorted ignoring case where no predicate says otherwise. -/
  foldsCase : Bool := false

end

namespace Source

/-- The primary table, or the derived table in its place. -/
def ref : Source → TableRef
  | .table ref => ref
  | .derived ref _ => ref

end Source

namespace Query

def primary (query : Query) : TableRef :=
  query.source.ref

/-- The WHERE tree. -/
def condition (query : Query) : Predicate :=
  .node {} .and query.filters

def hasLimitOrOffset (query : Query) : Bool :=
  query.rowLimit.isSome || query.rowOffset.isSome

end Query

end PreparedSql
