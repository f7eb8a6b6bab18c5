import PreparedSql.Json.Reader
import PreparedSql.Json.Record
import PreparedSql.Json.Writer
import PreparedSql.Schema.Basic

/-! Schemas written as JSON documents. Reading a document and writing one are about the same
data; a schema is what a document says, once the logical names that it leaves out are filled
in. -/

namespace PreparedSql

/-- A column as a document gives it: the logical name may be left out. -/
structure ColumnEntry where
  name : String
  field : Option String := none
  type : SqlType
  primaryKey : Bool := false
  nullable : Bool := false
  deriving DecidableEq, Repr, Inhabited

structure TableEntry where
  name : String
  columns : List ColumnEntry
  relations : List Relation := []
  deriving DecidableEq, Repr, Inhabited

structure SchemaDocument where
  name : String
  tables : List TableEntry
  deriving DecidableEq, Repr, Inhabited

/-- Why a document gives no schema. -/
inductive SchemaError where
  /-- It is no JSON text, or not of the form of a schema. -/
  | malformed
  /-- A relation leads to something unknown. -/
  | invalid (reason : CompileError)
  deriving DecidableEq, Repr

/-- A type's name, alone or as the only key of an object with the value null. -/
def SqlType.read? : Json → Option SqlType
  | .string (some name) => ofName? name
  | .object [(some name, .null)] => ofName? name
  | _ => none

namespace ColumnEntry

def keys : List String := ["name", "field", "type", "primary_key", "nullable"]

def read? (json : Json) : Option ColumnEntry :=
  match json.fields? keys with
  | some [name, field, type, primaryKey, nullable] => do
      return {
        name := ← (← name).text?
        field := ← Json.orNull Json.text? field
        type := ← SqlType.read? (← type)
        primaryKey := ← Json.orDefault false Json.bool? primaryKey
        nullable := ← Json.orDefault false Json.bool? nullable }
  | _ => none

def toJson (entry : ColumnEntry) : Json :=
  .object [
    (some "name", .string entry.name),
    (some "field", (entry.field.map fun field => Json.string field).getD .null),
    (some "type", .string entry.type.name),
    (some "primary_key", .bool entry.primaryKey),
    (some "nullable", .bool entry.nullable)]

/-- The logical name of a column is its SQL name unless another is given. -/
def column (entry : ColumnEntry) : Column :=
  { name := entry.name
    field := entry.field.getD entry.name
    type := entry.type
    primaryKey := entry.primaryKey
    nullable := entry.nullable }

end ColumnEntry

namespace Relation

def pairKeys : List String := ["local", "foreign"]

def readPair? (json : Json) : Option (String × String) :=
  match json.fields? pairKeys with
  | some [own, foreign] => do return (← (← own).text?, ← (← foreign).text?)
  | _ => none

def keys : List String := ["name", "foreign_table", "columns"]

def read? (json : Json) : Option Relation :=
  match json.fields? keys with
  | some [name, foreignTable, columns] => do
      return {
        name := ← (← name).text?
        foreignTable := ← (← foreignTable).text?
        pairs := ← Json.listOf readPair? (← columns) }
  | _ => none

def pairToJson (pair : String × String) : Json :=
  .object [(some "local", .string pair.1), (some "foreign", .string pair.2)]

def toJson (relation : Relation) : Json :=
  .object [
    (some "name", .string relation.name),
    (some "foreign_table", .string relation.foreignTable),
    (some "columns", .array (relation.pairs.map pairToJson))]

end Relation

namespace TableEntry

def keys : List String := ["name", "columns", "relations"]

def read? (json : Json) : Option TableEntry :=
  match json.fields? keys with
  | some [name, columns, relations] => do
      return {
        name := ← (← name).text?
        columns := ← Json.listOf ColumnEntry.read? (← columns)
        relations := ← Json.orDefault [] (Json.listOf Relation.read?) relations }
  | _ => none

def toJson (entry : TableEntry) : Json :=
  .object [
    (some "name", .string entry.name),
    (some "columns", .array (entry.columns.map ColumnEntry.toJson)),
    (some "relations", .array (entry.relations.map Relation.toJson))]

def table (entry : TableEntry) : Table :=
  { name := entry.name
    columns := entry.columns.map ColumnEntry.column
    relations := entry.relations }

end TableEntry

namespace SchemaDocument

def keys : List String := ["name", "tables"]

def ofJson? (json : Json) : Option SchemaDocument :=
  match json.fields? keys with
  | some [name, tables] => do
      return {
        name := ← (← name).text?
        tables := ← Json.listOf TableEntry.read? (← tables) }
  | _ => none

def toJson (document : SchemaDocument) : Json :=
  .object [
    (some "name", .string document.name),
    (some "tables", .array (document.tables.map TableEntry.toJson))]

def read? (text : String) : Option SchemaDocument :=
  (Json.parse? text).bind ofJson?

/-- Every field is written, also one that could be left out. -/
def write (document : SchemaDocument) : String :=
  document.toJson.write

def schema (document : SchemaDocument) : Schema :=
  { name := document.name, tables := document.tables.map TableEntry.table }

end SchemaDocument

/-- The schema of a document, if its relations lead to known tables and columns. -/
def Schema.read (text : String) : Except SchemaError Schema :=
  match SchemaDocument.read? text with
  | none => .error .malformed
  | some document =>
      match document.schema.validate with
      | .ok () => .ok document.schema
      | .error reason => .error (.invalid reason)

end PreparedSql
