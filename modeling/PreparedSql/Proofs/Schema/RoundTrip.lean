import Mathlib.Data.List.Forall2
import Mathlib.Data.List.Nodup
import PreparedSql.Proofs.Json.Written
import PreparedSql.Proofs.Schema.Valid
import PreparedSql.Schema.Document

/-! A schema document reads back from the text it is written as, and the schema that is read from
this text is the one that the document describes, if there is one. Each record is written with
all its keys, so its fields are found in the order of the keys, whatever their values are. -/

namespace PreparedSql

namespace Json

/-- The members that stand for the fields of a record. -/
def members (keys : List String) (values : List Json) : List (Option String × Json) :=
  (keys.map some).zip values

theorem hasProperKeys_members {keys : List String} (distinct : keys.Nodup) {values : List Json}
    (each : keys.length = values.length) : hasProperKeys keys (members keys values) = true := by
  have named : (members keys values).map Prod.fst = keys.map some :=
    List.map_fst_zip (by rw [List.length_map]; exact Nat.le_of_eq each)
  have texts : ∀ member ∈ members keys values, member.1.isSome = true := by
    intro member among
    have key := List.mem_map_of_mem (f := Prod.fst) among
    rw [named] at key
    obtain ⟨name, _, same⟩ := List.mem_map.1 key
    rw [← same]
    rfl
  have once : ∀ key, ((members keys values).filter (·.1 == some key)).length ≤ 1 := by
    intro key
    have counted := List.nodup_iff_count_le_one.1
      (distinct.map fun _ _ => Option.some.inj) (some key)
    rw [← named, List.count, List.countP_map, List.countP_eq_length_filter] at counted
    exact counted
  unfold hasProperKeys
  rw [Bool.and_eq_true]
  exact ⟨List.all_eq_true.2 texts,
    List.all_eq_true.2 fun key _ => decide_eq_true (once key)⟩

theorem map_member?_members {keys : List String} (distinct : keys.Nodup) {values : List Json}
    (each : keys.length = values.length) :
    keys.map (member? (members keys values)) = values.map some := by
  induction keys generalizing values with
  | nil =>
    cases values with
    | nil => rfl
    | cons value values => cases each
  | cons key keys ih =>
    cases values with
    | nil => cases each
    | cons value values =>
      obtain ⟨fresh, later⟩ := List.nodup_cons.1 distinct
      have here : member? (members (key :: keys) (value :: values)) key = some value := by
        simp [member?, members]
      have others : ∀ other ∈ keys, member? (members (key :: keys) (value :: values)) other =
          member? (members keys values) other := by
        intro other among
        have different : key ≠ other := fun same => fresh (same ▸ among)
        simp [member?, members, different]
      rw [List.map_cons, here, List.map_congr_left others, ih later (Nat.succ.inj each)]
      rfl

/-- A record written with all its keys has these fields. -/
theorem fields?_members {keys : List String} (distinct : keys.Nodup) {values : List Json}
    (each : keys.length = values.length) :
    (Json.object (members keys values)).fields? keys = some (values.map some) := by
  show (if _ then some (keys.map _) else none) = _
  rw [if_pos (hasProperKeys_members distinct each), map_member?_members distinct each]

theorem Numberless.members {keys : List String} {values : List Json}
    (each : ∀ value ∈ values, value.Numberless) :
    (Json.object (members keys values)).Numberless :=
  .object fun _ member => each _ (List.of_mem_zip member).2

/-- Values that are written without numbers, each of which is read back as it was. -/
structure RoundTrips {α : Type} (read? : Json → Option α) (toJson : α → Json) : Prop where
  back : ∀ value, read? (toJson value) = some value
  numberless : ∀ value, (toJson value).Numberless

theorem RoundTrips.listOf {α : Type} {read? : Json → Option α} {toJson : α → Json}
    (each : RoundTrips read? toJson) :
    RoundTrips (listOf read?) fun values => .array (values.map toJson) where
  back values := by
    show (values.map toJson).mapM read? = some values
    induction values with
    | nil => rfl
    | cons value values ih =>
      rw [List.map_cons, List.mapM_cons, each.back, ih]
      rfl
  numberless values := .array (List.forall_mem_map.2 fun value _ => each.numberless value)

end Json

namespace ColumnEntry

def fieldToJson (field : Option String) : Json :=
  (field.map fun given => Json.string given).getD .null

theorem fieldToJson_roundTrips : Json.RoundTrips (Json.orNull Json.text? ∘ some) fieldToJson where
  back field := by cases field <;> rfl
  numberless field := by
    cases field with
    | none => exact .null
    | some given => exact .string given

def values (entry : ColumnEntry) : List Json :=
  [.string entry.name, fieldToJson entry.field, .string entry.type.name, .bool entry.primaryKey,
    .bool entry.nullable]

theorem toJson_eq (entry : ColumnEntry) :
    entry.toJson = .object (Json.members keys entry.values) := rfl

theorem roundTrips : Json.RoundTrips read? toJson where
  back entry := by
    have distinct : keys.Nodup := by decide
    have field : Json.orNull Json.text? (some (fieldToJson entry.field)) = some entry.field :=
      fieldToJson_roundTrips.back entry.field
    have type : SqlType.read? (.string entry.type.name) = some entry.type :=
      SqlType.ofName?_name entry.type
    unfold read?
    rw [toJson_eq, Json.fields?_members distinct rfl]
    simp [values, field, type, Json.text?, Json.bool?, Json.orDefault]
  numberless entry := by
    rw [toJson_eq]
    refine .members ?_
    simp only [values, List.forall_mem_cons]
    exact ⟨.string _, fieldToJson_roundTrips.numberless entry.field, .string _, .bool _, .bool _,
      nofun⟩

end ColumnEntry

namespace Relation

def pairValues (pair : String × String) : List Json :=
  [.string pair.1, .string pair.2]

theorem pairToJson_eq (pair : String × String) :
    pairToJson pair = .object (Json.members pairKeys (pairValues pair)) := rfl

theorem pair_roundTrips : Json.RoundTrips readPair? pairToJson where
  back pair := by
    have distinct : pairKeys.Nodup := by decide
    unfold readPair?
    rw [pairToJson_eq, Json.fields?_members distinct rfl]
    rfl
  numberless pair := by
    rw [pairToJson_eq]
    refine .members ?_
    simp only [pairValues, List.forall_mem_cons]
    exact ⟨.string _, .string _, nofun⟩

def values (relation : Relation) : List Json :=
  [.string relation.name, .string relation.foreignTable,
    .array (relation.pairs.map pairToJson)]

theorem toJson_eq (relation : Relation) :
    relation.toJson = .object (Json.members keys relation.values) := rfl

theorem roundTrips : Json.RoundTrips read? toJson where
  back relation := by
    have distinct : keys.Nodup := by decide
    unfold read?
    rw [toJson_eq, Json.fields?_members distinct rfl]
    simp [values, pair_roundTrips.listOf.back, Json.text?]
  numberless relation := by
    rw [toJson_eq]
    refine .members ?_
    simp only [values, List.forall_mem_cons]
    exact ⟨.string _, .string _, pair_roundTrips.listOf.numberless relation.pairs, nofun⟩

end Relation

namespace TableEntry

def values (entry : TableEntry) : List Json :=
  [.string entry.name, .array (entry.columns.map ColumnEntry.toJson),
    .array (entry.relations.map Relation.toJson)]

theorem toJson_eq (entry : TableEntry) :
    entry.toJson = .object (Json.members keys entry.values) := rfl

theorem roundTrips : Json.RoundTrips read? toJson where
  back entry := by
    have distinct : keys.Nodup := by decide
    unfold read?
    rw [toJson_eq, Json.fields?_members distinct rfl]
    simp [values, ColumnEntry.roundTrips.listOf.back, Relation.roundTrips.listOf.back,
      Json.text?, Json.orDefault]
  numberless entry := by
    rw [toJson_eq]
    refine .members ?_
    simp only [values, List.forall_mem_cons]
    exact ⟨.string _, ColumnEntry.roundTrips.listOf.numberless entry.columns,
      Relation.roundTrips.listOf.numberless entry.relations, nofun⟩

end TableEntry

namespace SchemaDocument

def values (document : SchemaDocument) : List Json :=
  [.string document.name, .array (document.tables.map TableEntry.toJson)]

theorem toJson_eq (document : SchemaDocument) :
    document.toJson = .object (Json.members keys document.values) := rfl

theorem roundTrips : Json.RoundTrips ofJson? toJson where
  back document := by
    have distinct : keys.Nodup := by decide
    unfold ofJson?
    rw [toJson_eq, Json.fields?_members distinct rfl]
    simp [values, TableEntry.roundTrips.listOf.back, Json.text?]
  numberless document := by
    rw [toJson_eq]
    refine .members ?_
    simp only [values, List.forall_mem_cons]
    exact ⟨.string _, TableEntry.roundTrips.listOf.numberless document.tables, nofun⟩

theorem read?_write (document : SchemaDocument) : read? document.write = some document := by
  unfold read? write
  rw [Json.parse?_write (roundTrips.numberless document)]
  exact roundTrips.back document

end SchemaDocument

namespace ColumnEntry

/-- The column goes by its logical name, or by its SQL name in any ASCII case. -/
def AnswersTo (entry : ColumnEntry) (name : String) : Prop :=
  entry.field.getD entry.name = name ∨ Text.sameIgnoringCase entry.name name = true

/-- The column that the entry stands for. -/
structure Describes (entry : ColumnEntry) (column : Column) : Prop where
  name : column.name = entry.name
  givenField : ∀ field, entry.field = some field → column.field = field
  impliedField : entry.field = none → column.field = entry.name
  type : column.type = entry.type
  primaryKey : column.primaryKey = entry.primaryKey
  nullable : column.nullable = entry.nullable

theorem answersTo_column_iff {entry : ColumnEntry} {name : String} :
    entry.column.answersTo name = true ↔ entry.AnswersTo name := by
  simp [Column.answersTo, AnswersTo, column]

theorem describes_column (entry : ColumnEntry) : entry.Describes entry.column where
  name := rfl
  givenField field given := by
    show entry.field.getD entry.name = field
    rw [given]
    rfl
  impliedField absent := by
    show entry.field.getD entry.name = entry.name
    rw [absent]
    rfl
  type := rfl
  primaryKey := rfl
  nullable := rfl

end ColumnEntry

namespace TableEntry

/-- Some column of the table answers to the name. -/
def Knows (entry : TableEntry) (name : String) : Prop :=
  ∃ column ∈ entry.columns, column.AnswersTo name

/-- The table that the entry stands for, its columns and relations in their order. -/
structure Describes (entry : TableEntry) (table : Table) : Prop where
  name : table.name = entry.name
  columns : List.Forall₂ ColumnEntry.Describes entry.columns table.columns
  relations : table.relations = entry.relations

theorem knows_table_iff {entry : TableEntry} {name : String} :
    entry.table.Knows name ↔ entry.Knows name := by
  simp [Table.Knows, Knows, table, ColumnEntry.answersTo_column_iff]

theorem describes_table (entry : TableEntry) : entry.Describes entry.table where
  name := rfl
  columns := List.forall₂_map_right_iff.2
    (List.forall₂_same.2 fun column _ => column.describes_column)
  relations := rfl

end TableEntry

namespace SchemaDocument

variable {document : SchemaDocument}

/-- The first table of the name that the relation gives is in the document, and each pair names
a column on both sides. -/
def Resolves (document : SchemaDocument) (table : TableEntry) (relation : Relation) : Prop :=
  ∃ foreign, document.tables.find? (Text.sameIgnoringCase ·.name relation.foreignTable) =
      some foreign ∧
    ∀ pair ∈ relation.pairs, table.Knows pair.1 ∧ foreign.Knows pair.2

/-- Every relation of the document leads to a table and columns that it knows. -/
def Resolved (document : SchemaDocument) : Prop :=
  ∀ table ∈ document.tables, ∀ relation ∈ table.relations, document.Resolves table relation

/-- The schema that the document stands for, its tables in their order. -/
structure Describes (document : SchemaDocument) (schema : Schema) : Prop where
  name : schema.name = document.name
  tables : List.Forall₂ TableEntry.Describes document.tables schema.tables

theorem resolves_schema_iff {table : TableEntry} {relation : Relation} :
    document.schema.Resolves table.table relation ↔ document.Resolves table relation := by
  have found (foreign : Table) : document.schema.table relation.foreignTable = .ok foreign ↔
      ∃ entry, document.tables.find? (Text.sameIgnoringCase ·.name relation.foreignTable) =
        some entry ∧ entry.table = foreign := by
    rw [Schema.table_eq_ok_iff]
    show (document.tables.map TableEntry.table).find? _ = _ ↔ _
    rw [List.find?_map, Option.map_eq_some_iff]
    rfl
  unfold Schema.Resolves Resolves
  constructor
  · rintro ⟨_, lookup, pairs⟩
    obtain ⟨entry, first, rfl⟩ := (found _).1 lookup
    exact ⟨entry, first, fun pair member => (pairs pair member).imp
      TableEntry.knows_table_iff.1 TableEntry.knows_table_iff.1⟩
  · rintro ⟨entry, first, pairs⟩
    exact ⟨entry.table, (found _).2 ⟨entry, first, rfl⟩, fun pair member =>
      (pairs pair member).imp TableEntry.knows_table_iff.2 TableEntry.knows_table_iff.2⟩

theorem validate_schema_iff : document.schema.validate = .ok () ↔ document.Resolved := by
  rw [Schema.validate_eq_ok_iff]
  show (∀ table ∈ document.tables.map TableEntry.table, _) ↔ _
  rw [List.forall_mem_map]
  exact forall₂_congr fun table _ => forall₂_congr fun relation _ => resolves_schema_iff

theorem describes_schema (document : SchemaDocument) : document.Describes document.schema where
  name := rfl
  tables := List.forall₂_map_right_iff.2
    (List.forall₂_same.2 fun table _ => table.describes_table)

theorem read_write_eq_ok_iff {schema : Schema} :
    Schema.read document.write = .ok schema ↔ document.Resolved ∧ document.schema = schema := by
  unfold Schema.read
  rw [read?_write]
  dsimp only
  cases checked : document.schema.validate with
  | ok =>
    have resolved : document.Resolved := validate_schema_iff.1 checked
    exact ⟨fun read => ⟨resolved, Except.ok.inj read⟩, fun ⟨_, same⟩ => congrArg Except.ok same⟩
  | error reason =>
    constructor
    · nofun
    · rintro ⟨resolved, _⟩
      rw [validate_schema_iff.2 resolved] at checked
      cases checked

end SchemaDocument

/-- Every document is read back from its text as it was, and a schema is read from this text just
when all relations resolve: the one that the document describes. -/
theorem schema_document_round_trips (document : SchemaDocument) :
    SchemaDocument.read? document.write = some document ∧
      ((∃ schema, Schema.read document.write = .ok schema) ↔ document.Resolved) ∧
      ∀ schema, Schema.read document.write = .ok schema → document.Describes schema := by
  refine ⟨document.read?_write, ?_, ?_⟩
  · simp only [SchemaDocument.read_write_eq_ok_iff, exists_and_left, exists_eq', and_true]
  · intro schema read
    obtain ⟨_, rfl⟩ := SchemaDocument.read_write_eq_ok_iff.1 read
    exact document.describes_schema

/-- A table that leads to itself, with characters in its names that have to be escaped. -/
def staffDocument : SchemaDocument where
  name := "staff\u0001"
  tables := [{
    name := "the \"staff\""
    columns := [
      { name := "id", type := .integer, primaryKey := true },
      { name := "boss\\id", field := some "Boss\n", type := .integer, nullable := true }]
    relations := [
      { name := "Boss", foreignTable := "The \"STAFF\"", pairs := [("Boss\n", "ID")] }] }]

theorem schema_document_round_trips_staff :
    SchemaDocument.read? staffDocument.write = some staffDocument ∧
      ∃ schema, Schema.read staffDocument.write = .ok schema := by
  have resolved : staffDocument.Resolved := by
    intro table member relation among
    obtain rfl := List.mem_singleton.1 member
    obtain rfl := List.mem_singleton.1 among
    refine ⟨_, List.find?_cons_of_pos (by decide +kernel), fun pair named => ?_⟩
    obtain rfl := List.mem_singleton.1 named
    exact ⟨⟨_, List.mem_cons_of_mem _ (List.mem_singleton_self _), .inl rfl⟩,
      ⟨_, List.mem_cons_self, .inr (by decide +kernel)⟩⟩
  obtain ⟨back, readable, _⟩ := schema_document_round_trips staffDocument
  exact ⟨back, readable.2 resolved⟩

end PreparedSql
