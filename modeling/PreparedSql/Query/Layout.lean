import PreparedSql.Query.Basic

/-! What a query reads and what it selects: its sources, and the slots of its SELECT list in
the order of the columns of a row. -/

namespace PreparedSql

/-- One column of the result rows. -/
inductive Slot where
  | column (column : QualifiedColumn)
  /-- Verbatim SQL, which belongs to no table. -/
  | expression (sql : String)
  deriving DecidableEq, Repr

namespace Slot

def sql : Slot → String
  | .column selected => selected.sql
  | .expression sql => sql

def column? : Slot → Option QualifiedColumn
  | .column selected => some selected
  | .expression _ => none

end Slot

/-- Adds a source unless one of the same key is there. -/
def addSource (sources : List TableRef) (ref : TableRef) : List TableRef :=
  if sources.any (·.key == ref.key) then sources else sources ++ [ref]

def addSources (sources refs : List TableRef) : List TableRef :=
  refs.foldl addSource sources

theorem mem_addSource {sources : List TableRef} {ref source : TableRef}
    (member : source ∈ addSource sources ref) : source ∈ sources ∨ source = ref := by
  unfold addSource at member
  split at member
  next => exact Or.inl member
  next => simpa only [List.mem_append, List.mem_singleton] using member

/-- No source comes from elsewhere. -/
theorem mem_addSources {sources refs : List TableRef} {ref : TableRef}
    (member : ref ∈ addSources sources refs) : ref ∈ sources ∨ ref ∈ refs := by
  unfold addSources at member
  induction refs generalizing sources with
  | nil => exact Or.inl member
  | cons first rest ih =>
    rcases ih member with inside | later
    · rcases mem_addSource inside with old | rfl
      · exact Or.inl old
      · exact Or.inr List.mem_cons_self
    · exact Or.inr (List.mem_cons_of_mem first later)

/-- Every source added is there under its key. -/
theorem key_mem_addSource (sources : List TableRef) (ref : TableRef) :
    ref.key ∈ (addSource sources ref).map TableRef.key := by
  unfold addSource
  split
  next present =>
    obtain ⟨source, member, same⟩ := List.any_eq_true.1 present
    exact List.mem_map.2 ⟨source, member, eq_of_beq same⟩
  next => simp

/-- No key stands twice. -/
theorem nodup_addSource {sources : List TableRef} (ref : TableRef)
    (distinct : (sources.map TableRef.key).Nodup) :
    ((addSource sources ref).map TableRef.key).Nodup := by
  unfold addSource
  split
  next => exact distinct
  next absent =>
    rw [List.map_append, List.nodup_append]
    refine ⟨distinct, by simp, ?_⟩
    intro key member other last same
    simp only [List.map_cons, List.map_nil, List.mem_singleton] at last
    obtain ⟨source, inside, rfl⟩ := List.mem_map.1 member
    exact absent (List.any_eq_true.2 ⟨source, inside, beq_iff_eq.2 (same.trans last)⟩)

theorem nodup_addSources {sources : List TableRef} (refs : List TableRef)
    (distinct : (sources.map TableRef.key).Nodup) :
    ((addSources sources refs).map TableRef.key).Nodup := by
  unfold addSources
  induction refs generalizing sources with
  | nil => exact distinct
  | cons ref refs ih => exact ih (nodup_addSource ref distinct)

def JoinEntry.tables (entry : JoinEntry) : List TableRef :=
  [entry.join.leftTable, entry.join.rightTable]

namespace Query

/-- The primary source, then the tables of the joins, each key once. -/
def sources (query : Query) : List TableRef :=
  addSources [query.primary] (query.joins.flatMap JoinEntry.tables)

/-- A column of the query's own clauses. -/
def resolve (query : Query) (spec : ColumnSpec) : Except CompileError QualifiedColumn :=
  spec.resolve (some query.primary) query.sources

def slots (query : Query) : SelectEntry → Except CompileError (List Slot)
  | .all table => .ok (table.columns.map .column)
  | .column spec => (query.resolve spec).map fun column => [.column column]
  | .raw sql => .ok [.expression sql]

/-- The SELECT list. Without an entry it holds the columns of the primary table. -/
def layout (query : Query) : Except CompileError (List Slot) :=
  match query.selection with
  | [] => .ok (query.primary.columns.map .column)
  | entries => (entries.mapM query.slots).map List.flatten

/-- The columns of the SELECT list, without its expressions. -/
def selectedColumns (query : Query) : Except CompileError (List QualifiedColumn) :=
  query.layout.map (·.filterMap Slot.column?)

end Query

end PreparedSql
