import PreparedSql.Proofs.SelectClauses
import PreparedSql.Query.Build
import PreparedSql.Record.OfRow

/-! Where the cells of a table stand in a row. When all columns of some tables are selected, one
table after the other, and no two of them have the same key, then the cells with the key of a
table are those behind the cells of the tables before it. -/

namespace PreparedSql

/-- The columns of a table, each with its cell, in a row where the columns of other tables come
first. -/
def TableRef.cellsBehind (table : TableRef) (before : List TableRef) (row : List Value) :
    List (Column × Value) :=
  table.table.columns.zip (row.drop (before.flatMap TableRef.columns).length)

/-- Some cell is not NULL: one of the primary key or, in a table without one, any. -/
def TableRef.Matched (table : TableRef) (cells : List (Column × Value)) : Prop :=
  ∃ column datum, (column, some datum) ∈ cells ∧
    (column.primaryKey = true ∨ ∀ other ∈ table.table.columns, other.primaryKey = false)

/-- All columns of some tables, one table after the other. -/
def tableSlots (tables : List TableRef) : List Slot :=
  tables.flatMap fun table => table.columns.map .column

namespace Slot

/-- The column and the cell, if the slot has the key. -/
def cell? (key : SourceKey) : Slot × Value → Option (Column × Value)
  | (.column selected, value) =>
      if selected.table.key = key then some (selected.column, value) else none
  | (.expression _, _) => none

end Slot

section Layout

variable {tables before after : List TableRef} {table : TableRef} {row : List Value}

theorem tableSlots_append (front back : List TableRef) :
    tableSlots (front ++ back) = tableSlots front ++ tableSlots back :=
  List.flatMap_append

theorem length_tableSlots (tables : List TableRef) :
    (tableSlots tables).length = (tables.flatMap TableRef.columns).length := by
  simp [tableSlots, List.length_flatMap]

theorem zip_append_left {α β : Type} (front back : List α) (row : List β) :
    (front ++ back).zip row = front.zip row ++ back.zip (row.drop front.length) := by
  induction front generalizing row with
  | nil => rfl
  | cons first front ih =>
    cases row with
    | nil => simp
    | cons cell row => simp [ih]

/-- Tables of other keys have no cell to give. -/
theorem filterMap_cell?_of_ne {key : SourceKey} (others : ∀ table ∈ tables, table.key ≠ key) :
    ((tableSlots tables).zip row).filterMap (Slot.cell? key) = [] := by
  rw [List.filterMap_eq_nil_iff]
  rintro ⟨slot, value⟩ member
  obtain ⟨table, inside, same⟩ := List.mem_flatMap.1 (List.of_mem_zip member).1
  obtain ⟨selected, own, rfl⟩ := List.mem_map.1 same
  obtain ⟨column, -, rfl⟩ := List.mem_map.1 own
  exact if_neg (others table inside)

theorem filterMap_cell?_self :
    ((table.columns.map Slot.column).zip row).filterMap (Slot.cell? table.key) =
      table.table.columns.zip row := by
  rw [TableRef.columns, List.map_map]
  generalize table.table.columns = columns
  induction columns generalizing row with
  | nil => rfl
  | cons column columns ih =>
    cases row with
    | nil => rfl
    | cons value row => simp [Slot.cell?, ih]

/-- A table whose key no other one has gets its own segment of the row. -/
theorem filterMap_cell? (apart : ((before ++ table :: after).map TableRef.key).Nodup) :
    ((tableSlots (before ++ table :: after)).zip row).filterMap (Slot.cell? table.key) =
      table.cellsBehind before row := by
  rw [List.map_append, List.map_cons, List.nodup_append, List.nodup_cons] at apart
  obtain ⟨-, ⟨later, -⟩, earlier⟩ := apart
  have ahead : ∀ other ∈ before, other.key ≠ table.key := fun other member =>
    earlier _ (List.mem_map_of_mem member) _ List.mem_cons_self
  have behind : ∀ other ∈ after, other.key ≠ table.key := fun other member same =>
    later (same ▸ List.mem_map_of_mem member)
  have own : tableSlots (table :: after) = table.columns.map .column ++ tableSlots after := rfl
  rw [tableSlots_append, own, zip_append_left, zip_append_left, List.filterMap_append,
    List.filterMap_append, filterMap_cell?_of_ne ahead, filterMap_cell?_self,
    filterMap_cell?_of_ne behind, length_tableSlots, List.nil_append, List.append_nil]
  rfl

/-- In a row that is long enough every column of the table has a cell. -/
theorem map_fst_cellsBehind
    (enough : row.length = ((before ++ table :: after).flatMap TableRef.columns).length) :
    (table.cellsBehind before row).map Prod.fst = table.table.columns := by
  apply List.map_fst_zip
  rw [List.flatMap_append, List.flatMap_cons, List.length_append, List.length_append] at enough
  have own : table.columns.length = table.table.columns.length := List.length_map _
  rw [List.length_drop]
  omega

end Layout

namespace SelectPlan

variable {plan : SelectPlan} {row : List Value} {tables before after : List TableRef}
  {table : TableRef}

theorem cells_eq_filterMap :
    plan.cells row table = (plan.layout.zip row).filterMap (Slot.cell? table.key) := by
  unfold cells
  congr 1
  funext ⟨slot, value⟩
  cases slot <;> rfl

/-- The cells of a table, in a row of all the columns of some tables. -/
theorem cells_eq (selects : plan.layout = tableSlots (before ++ table :: after))
    (apart : ((before ++ table :: after).map TableRef.key).Nodup) :
    plan.cells row table = table.cellsBehind before row := by
  rw [cells_eq_filterMap, selects, filterMap_cell? apart]

/-- A table is matched when a selected cell of it says so: one of the primary key or, if none of
it is selected, any. -/
theorem isUnmatched_eq_false_iff : plan.isUnmatched row table = false ↔
    ∃ column datum, (column, some datum) ∈ plan.cells row table ∧
      (column.primaryKey = true ∨ ∀ cell ∈ plan.cells row table, cell.1.primaryKey = false) := by
  have filled (cells : List (Column × Value)) : cells.all (·.2.isNull) = false ↔
      ∃ column datum, (column, some datum) ∈ cells := by
    rw [List.all_eq_false]
    constructor
    · rintro ⟨⟨column, _ | datum⟩, member, some⟩
      · exact absurd rfl some
      · exact ⟨column, datum, member⟩
    · rintro ⟨column, datum, member⟩
      exact ⟨_, member, Bool.false_ne_true⟩
  unfold isUnmatched
  dsimp only
  split
  next keyless =>
    have plain : ∀ cell ∈ plan.cells row table, cell.1.primaryKey = false := by
      simpa only [List.isEmpty_iff, List.filter_eq_nil_iff, Bool.not_eq_true] using keyless
    rw [filled]
    exact exists_congr fun column => exists_congr fun datum =>
      (and_iff_left_of_imp fun _ => Or.inr plain).symm
  next keyed =>
    rw [filled]
    refine exists_congr fun column => exists_congr fun datum => ?_
    rw [List.mem_filter]
    refine and_congr_right fun _ => (or_iff_left fun plain => keyed ?_).symm
    simpa only [List.isEmpty_iff, List.filter_eq_nil_iff, Bool.not_eq_true] using plain

theorem isUnmatched_eq_false_iff_matched
    (selects : plan.layout = tableSlots (before ++ table :: after))
    (apart : ((before ++ table :: after).map TableRef.key).Nodup)
    (enough : row.length = plan.layout.length) :
    plan.isUnmatched row table = false ↔ table.Matched (table.cellsBehind before row) := by
  rw [selects, length_tableSlots] at enough
  have columns := map_fst_cellsBehind enough
  rw [isUnmatched_eq_false_iff, cells_eq selects apart, TableRef.Matched]
  simp only [← columns, List.forall_mem_map]

end SelectPlan

namespace Query

variable {query : Query} {dialect : Dialect} {plan : SelectPlan}

/-- The primary table, then the right table of every join, in their order. -/
def joinedTables (query : Query) : List TableRef :=
  query.primary :: query.joins.map (·.join.rightTable)

theorem selectPlan_parts (planned : query.selectPlan dialect = .ok plan) :
    Chain.check query.joins = .ok () ∧ query.layout = .ok plan.layout ∧
      plan.primary = query.primary ∧ plan.joins = query.joins := by
  obtain ⟨body, compiled, rest⟩ := Attempt.bind_eq_ok.1 planned
  obtain ⟨fragment, -, done⟩ := Attempt.bind_eq_ok.1 rest
  cases Attempt.pure_eq_ok.1 done
  obtain ⟨-, -, -, -, -, -, -, -, -, -, slots, -⟩ := body_parts compiled
  rw [body_eq] at compiled
  obtain ⟨_, chained, -⟩ := Attempt.bind_eq_ok.1 compiled
  exact ⟨chained, slots, rfl, rfl⟩

/-- Without other entries the SELECT list with the joins holds all columns of their tables. -/
theorem layout_selectWithJoins (fresh : query.selection = []) :
    query.selectWithJoins.layout = .ok (tableSlots query.joinedTables) := by
  have each (tables : List TableRef) :
      (tables.map SelectEntry.all).mapM query.selectWithJoins.slots =
        .ok (tables.map fun table => table.columns.map .column) := by
    rw [Attempt.mapM_eq_ok, List.forall₂_map_left_iff, List.forall₂_map_right_iff]
    exact List.forall₂_same.2 fun table _ => rfl
  have entries : query.selectWithJoins.selection = query.joinedTables.map .all := by
    rw [selectWithJoins, fresh, joinedTables, List.map_cons, List.map_map]
    rfl
  unfold layout
  rw [entries]
  show ((query.joinedTables.map .all).mapM query.selectWithJoins.slots).map List.flatten = _
  rw [each]
  rfl

end Query

end PreparedSql
