import PreparedSql.Proofs.Lookup

/-! What a schema that passes its check promises: the tables and columns that its relations name
can all be looked up. -/

namespace PreparedSql

namespace Table

/-- Some column of the table answers to the name. -/
def Knows (table : Table) (name : String) : Prop :=
  ∃ column ∈ table.columns, column.answersTo name = true

theorem exists_column_iff {table : Table} {name : String} :
    (∃ column, table.column name = .ok column) ↔ table.Knows name := by
  simp only [column_eq_ok_iff, ← Option.isSome_iff_exists, List.find?_isSome, Knows]

end Table

namespace Schema

variable {schema : Schema} {table foreign : Table}

/-- A relation of the table leads to a table of the schema, and its pairs to columns of both. -/
def Resolves (schema : Schema) (table : Table) (relation : Relation) : Prop :=
  ∃ foreign, schema.table relation.foreignTable = .ok foreign ∧
    ∀ pair ∈ relation.pairs, table.Knows pair.1 ∧ foreign.Knows pair.2

theorem checkPairs_eq_ok_iff {pairs : List (String × String)} :
    checkPairs table foreign pairs = .ok () ↔
      ∀ pair ∈ pairs, table.Knows pair.1 ∧ foreign.Knows pair.2 := by
  induction pairs with
  | nil => exact ⟨fun _ => nofun, fun _ => rfl⟩
  | cons pair pairs ih =>
    obtain ⟨own, remote⟩ := pair
    unfold checkPairs
    rw [List.forall_mem_cons, ← ih, ← Table.exists_column_iff, ← Table.exists_column_iff]
    simp only [Attempt.bind_eq_ok, exists_and_right, and_assoc]

theorem checkRelations_eq_ok_iff {relations : List Relation} :
    checkRelations schema table relations = .ok () ↔
      ∀ relation ∈ relations, schema.Resolves table relation := by
  induction relations with
  | nil => exact ⟨fun _ => nofun, fun _ => rfl⟩
  | cons relation relations ih =>
    unfold checkRelations
    rw [List.forall_mem_cons, ← ih]
    simp only [Attempt.bind_eq_ok, Resolves, ← checkPairs_eq_ok_iff]
    constructor
    · rintro ⟨foreign, found, ⟨⟩, here, rest⟩
      exact ⟨⟨foreign, found, here⟩, rest⟩
    · rintro ⟨⟨foreign, found, here⟩, rest⟩
      exact ⟨foreign, found, (), here, rest⟩

/-- A schema passes its check just when all its relations resolve. -/
theorem validate_eq_ok_iff : schema.validate = .ok () ↔
    ∀ table ∈ schema.tables, ∀ relation ∈ table.relations, schema.Resolves table relation := by
  unfold validate
  generalize schema.tables = tables
  induction tables with
  | nil => exact ⟨fun _ => nofun, fun _ => rfl⟩
  | cons table tables ih =>
    unfold checkTables
    rw [List.forall_mem_cons, ← ih, ← checkRelations_eq_ok_iff]
    simp only [Attempt.bind_eq_ok]
    exact ⟨fun ⟨_, here, rest⟩ => ⟨here, rest⟩, fun ⟨here, rest⟩ => ⟨(), here, rest⟩⟩

end Schema

end PreparedSql
