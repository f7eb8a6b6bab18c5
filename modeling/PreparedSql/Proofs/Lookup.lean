import PreparedSql.Proofs.Attempt
import PreparedSql.Query.Writing

/-! What a lookup finds: the first entry that goes by the name. The columns that a statement assigns
to are all looked up on its table. -/

namespace PreparedSql

namespace Table

variable {table : Table} {name : String}

theorem column_eq_ok_iff {column : Column} : table.column name = .ok column ↔
    table.columns.find? (·.answersTo name) = some column := by
  unfold Table.column
  cases table.columns.find? (·.answersTo name) with
  | some first => exact ⟨fun found => congrArg some (Except.ok.inj found),
      fun found => congrArg Except.ok (Option.some.inj found)⟩
  | none => exact ⟨nofun, nofun⟩

theorem relation_eq_ok_iff {relation : Relation} : table.relation name = .ok relation ↔
    table.relations.find? (·.name == name) = some relation := by
  unfold Table.relation
  cases table.relations.find? (·.name == name) with
  | some first => exact ⟨fun found => congrArg some (Except.ok.inj found),
      fun found => congrArg Except.ok (Option.some.inj found)⟩
  | none => exact ⟨nofun, nofun⟩

end Table

namespace Schema

variable {schema : Schema} {table : Table} {name : String}

theorem table_eq_ok_iff : schema.table name = .ok table ↔
    schema.tables.find? (Text.sameIgnoringCase ·.name name) = some table := by
  unfold Schema.table
  cases schema.tables.find? (Text.sameIgnoringCase ·.name name) with
  | some first => exact ⟨fun found => congrArg some (Except.ok.inj found),
      fun found => congrArg Except.ok (Option.some.inj found)⟩
  | none => exact ⟨nofun, nofun⟩

theorem mem_tables_of_table (found : schema.table name = .ok table) : table ∈ schema.tables :=
  List.mem_of_find?_eq_some (table_eq_ok_iff.1 found)

end Schema

/-- What a lookup on a table finds is a column of this table. -/
theorem TableRef.column_eq_ok {ref : TableRef} {name : String} {column : QualifiedColumn}
    (found : ref.column name = .ok column) :
    column.table = ref ∧ column.column ∈ ref.table.columns := by
  obtain ⟨own, search, rfl⟩ := Attempt.map_eq_ok.1 found
  exact ⟨rfl, List.mem_of_find?_eq_some (Table.column_eq_ok_iff.1 search)⟩

/-- A name is looked up on one of the sources, or on the table in scope. -/
theorem ColumnSpec.exists_column_of_resolve {name : String} {table : Option TableRef}
    {sources : List TableRef} {column : QualifiedColumn}
    (found : (ColumnSpec.named name).resolve table sources = .ok column) :
    ∃ ref ∈ sources ++ table.toList, ∃ own, ref.column own = .ok column := by
  unfold ColumnSpec.resolve at found
  dsimp only at found
  split at found
  next qualifier rest _ =>
    obtain ⟨source, named, looked⟩ := Attempt.bind_eq_ok.1 found
    unfold findSource at named
    split at named
    next first search =>
      cases named
      exact ⟨source, List.mem_of_find?_eq_some search, rest, looked⟩
    next => cases named
  next =>
    cases table with
    | none => cases found
    | some ref => exact ⟨ref, List.mem_append_right _ List.mem_cons_self, name, found⟩

theorem ColumnSpec.resolve_of_uncut {name : String} (whole : Text.cutFirst '.' name = none)
    (ref : TableRef) (sources : List TableRef) :
    (ColumnSpec.named name).resolve (some ref) sources = ref.column name := by
  simp only [resolve, whole]

theorem Query.resolveAssignments_eq_ok_iff {mutation : Mutation} {table : TableRef}
    {assignments : List Assignment} {assigned : List Assigned} :
    resolveAssignments mutation table assignments = .ok assigned ↔
      assignments ≠ [] ∧ assignments.mapM (Assignment.resolve table) = .ok assigned := by
  unfold resolveAssignments
  cases assignments with
  | nil => exact ⟨nofun, fun ⟨present, _⟩ => absurd rfl present⟩
  | cons first others => exact ⟨fun ran => ⟨List.cons_ne_nil _ _, ran⟩, And.right⟩

end PreparedSql
