import PreparedSql.Dialect.Basic
import PreparedSql.Schema.Basic
import PreparedSql.Text.Split

/-! Tables and columns as one statement refers to them: under an alias, qualified, or by a name
that is resolved when the statement is compiled. -/

namespace PreparedSql

/-- What tells one source of a statement from another: the table's name and the alias. -/
structure SourceKey where
  name : String
  aliasName : Option String
  deriving DecidableEq, Repr, Inhabited

/-- A table, possibly under an alias. -/
structure TableRef where
  table : Table
  aliasName : Option String := none
  deriving DecidableEq, Repr, Inhabited

/-- A column of a particular table of a statement. -/
structure QualifiedColumn where
  table : TableRef
  column : Column
  deriving DecidableEq, Repr, Inhabited

/-- A column that is already known, or a name still to be resolved. A name may be qualified by
the alias or name of a source, up to its first dot. -/
inductive ColumnSpec where
  | named (name : String)
  | known (column : QualifiedColumn)
  deriving DecidableEq, Repr

namespace TableRef

def key (ref : TableRef) : SourceKey :=
  ⟨ref.table.name, ref.aliasName⟩

/-- The name that qualifies the columns. -/
def label (ref : TableRef) : String :=
  ref.aliasName.getD ref.table.name

/-- The name, and the alias behind it, as FROM and JOIN introduce the table. -/
def fromSql (ref : TableRef) : String :=
  match ref.aliasName with
  | some aliasName => ref.table.name ++ " " ++ aliasName
  | none => ref.table.name

def column (ref : TableRef) (name : String) : Except CompileError QualifiedColumn :=
  (ref.table.column name).map fun column => ⟨ref, column⟩

/-- All columns, in order of declaration. -/
def columns (ref : TableRef) : List QualifiedColumn :=
  ref.table.columns.map fun column => ⟨ref, column⟩

end TableRef

namespace QualifiedColumn

def sql (column : QualifiedColumn) : String :=
  column.table.label ++ "." ++ column.column.name

def type (column : QualifiedColumn) : SqlType :=
  column.column.type

def isText (column : QualifiedColumn) : Bool :=
  column.type.isText

/-- Only text has a case to fold. -/
def foldedSql (dialect : Dialect) (column : QualifiedColumn) : String :=
  if column.isText then dialect.foldCase column.sql else column.sql

end QualifiedColumn

namespace ColumnSpec

/-- The first of the sources, the table in scope last, whose label is the qualifier. -/
def findSource (qualifier : String) (table : Option TableRef) (sources : List TableRef) :
    Except CompileError TableRef :=
  match (sources ++ table.toList).find? (Text.sameIgnoringCase ·.label qualifier) with
  | some source => .ok source
  | none => .error (.unknownTable qualifier)

/-- A bare name is looked up on the table in scope, a qualified one on the source it names. -/
def resolve (table : Option TableRef) (sources : List TableRef) :
    ColumnSpec → Except CompileError QualifiedColumn
  | .known column => .ok column
  | .named name =>
      match Text.cutFirst '.' name with
      | some (qualifier, rest) => do
          (← findSource qualifier table sources).column rest
      | none =>
          match table with
          | some ref => ref.column name
          | none => .error (.unboundColumn name)

end ColumnSpec

end PreparedSql
