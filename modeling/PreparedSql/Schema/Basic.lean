import PreparedSql.Error
import PreparedSql.Schema.SqlType
import PreparedSql.Text.Ascii

/-! Tables, their columns and the relations between them, as the compiler looks them up. -/

namespace PreparedSql

/-- A column has a SQL name and a logical name, its `field`. -/
structure Column where
  name : String
  field : String := name
  type : SqlType
  primaryKey : Bool := false
  nullable : Bool := false
  deriving DecidableEq, Repr, Inhabited

/-- A named link from one table to another, over pairs of a local and a foreign column. -/
structure Relation where
  name : String
  foreignTable : String
  pairs : List (String × String) := []
  deriving DecidableEq, Repr, Inhabited

structure Table where
  name : String
  columns : List Column := []
  relations : List Relation := []
  deriving DecidableEq, Repr, Inhabited

structure Schema where
  name : String
  tables : List Table := []
  deriving DecidableEq, Repr, Inhabited

namespace Column

/-- A column answers to its logical name exactly and to its SQL name in any ASCII case. -/
def answersTo (column : Column) (name : String) : Bool :=
  column.field == name || Text.sameIgnoringCase column.name name

end Column

namespace Table

/-- The first column, in order of declaration, that answers to the name. -/
def column (table : Table) (name : String) : Except CompileError Column :=
  match table.columns.find? (·.answersTo name) with
  | some column => .ok column
  | none => .error (.unknownColumn table.name name)

/-- The first relation of exactly that name. -/
def relation (table : Table) (name : String) : Except CompileError Relation :=
  match table.relations.find? (·.name == name) with
  | some relation => .ok relation
  | none => .error (.unknownRelation table.name name)

end Table

namespace Schema

/-- The first table of that name in any ASCII case. -/
def table (schema : Schema) (name : String) : Except CompileError Table :=
  match schema.tables.find? (Text.sameIgnoringCase ·.name name) with
  | some table => .ok table
  | none => .error (.unknownTable name)

def column (schema : Schema) (table column : String) : Except CompileError Column := do
  (← schema.table table).column column

/-- Every pair of the relation names a column on each side. -/
def checkPairs (table foreign : Table) : List (String × String) → Except CompileError Unit
  | [] => .ok ()
  | (own, remote) :: pairs => do
      let _ ← table.column own
      let _ ← foreign.column remote
      checkPairs table foreign pairs

def checkRelations (schema : Schema) (table : Table) : List Relation → Except CompileError Unit
  | [] => .ok ()
  | relation :: relations => do
      let foreign ← schema.table relation.foreignTable
      checkPairs table foreign relation.pairs
      checkRelations schema table relations

def checkTables (schema : Schema) : List Table → Except CompileError Unit
  | [] => .ok ()
  | table :: tables => do
      checkRelations schema table table.relations
      checkTables schema tables

/-- Every relation leads to a known table and to known columns; else the first that does not. -/
def validate (schema : Schema) : Except CompileError Unit :=
  checkTables schema schema.tables

end Schema

end PreparedSql
