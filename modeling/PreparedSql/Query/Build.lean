import PreparedSql.Predicate.Build
import PreparedSql.Query.Layout
import PreparedSql.Text.Blank

/-! Building queries, clause by clause. A step that fails leaves no query behind; its caller
still has the one from before. -/

namespace PreparedSql

namespace Query

/-- A table of the schema under an optional alias. -/
def findTable (schema : Schema) (name : String) (aliasName : Option String := none) :
    Except CompileError TableRef :=
  (schema.table name).map fun table => { table, aliasName }

def ofTable (schema : Schema) (name : String) (aliasName : Option String := none) :
    Except CompileError Query :=
  (findTable schema name aliasName).map fun ref => { schema, source := .table ref }

/-- The table that a query is, seen from outside: it has the selected columns and no keys. -/
def derivedTable (aliasName : String) (columns : List QualifiedColumn) : Table :=
  { name := aliasName
    columns := columns.map fun column =>
      { name := column.column.name, field := column.column.field, type := column.type } }

/-- A query over the rows of another one, under an alias that is not blank. -/
def ofQuery (inner : Query) (aliasName : String) : Except CompileError Query :=
  if Text.isBlankText aliasName then .error .missingAlias
  else inner.selectedColumns.map fun columns =>
    { schema := inner.schema
      source := .derived { table := derivedTable aliasName columns } inner }

/-- Another table of the query's schema. -/
def table (query : Query) (name : String) (aliasName : Option String := none) :
    Except CompileError TableRef :=
  findTable query.schema name aliasName

/-- A column of the primary table. -/
def column (query : Query) (name : String) : Except CompileError QualifiedColumn :=
  query.primary.column name

def filter (query : Query) (predicate : Predicate) : Query :=
  { query with filters := query.filters ++ [predicate] }

def having (query : Query) (predicate : Predicate) : Query :=
  { query with havings := query.havings ++ [predicate] }

def join (query : Query) (join : Join) : Query :=
  { query with joins := query.joins ++ [{ join }] }

/-- Adds a join that follows a relation, as it is given. -/
def joinHop (query : Query) (join : Join) (hop : Hop) : Query :=
  { query with joins := query.joins ++ [{ join, hop }] }

def addSelect (query : Query) (entry : SelectEntry) : Query :=
  { query with selection := query.selection ++ [entry] }

def select (query : Query) (spec : ColumnSpec) : Query :=
  query.addSelect (.column spec)

def selectAll (query : Query) (table : TableRef) : Query :=
  query.addSelect (.all table)

def selectRaw (query : Query) (sql : String) : Query :=
  query.addSelect (.raw sql)

/-- Selects the primary table and then the right table of every join, in their order. -/
def selectWithJoins (query : Query) : Query :=
  { query with
    selection := query.selection ++ .all query.primary ::
      query.joins.map fun entry => .all entry.join.rightTable }

def distinct (query : Query) : Query :=
  { query with isDistinct := true }

def groupBy (query : Query) (spec : ColumnSpec) : Query :=
  { query with grouping := query.grouping ++ [spec] }

def orderBy (query : Query) (spec : ColumnSpec) (direction : Direction) : Query :=
  { query with ordering := query.ordering ++ [⟨.column spec, direction⟩] }

/-- Sorts by verbatim SQL, whose case is never folded. -/
def orderByRaw (query : Query) (sql : String) (direction : Direction) : Query :=
  { query with ordering := query.ordering ++ [⟨.raw sql, direction⟩] }

def limit (query : Query) (count : Nat) : Query :=
  { query with rowLimit := some count }

def offset (query : Query) (count : Nat) : Query :=
  { query with rowOffset := some count }

def ignoreCase (query : Query) (flag : Bool) : Query :=
  { query with foldsCase := flag }

end Query

end PreparedSql
