import PreparedSql.Join.Chain
import PreparedSql.Query.Reading
import PreparedSql.Record.Basic

/-! From flat rows to nested records. The primary table's columns form the root; the columns of
a relation join form a record that is attached where the chain of the join leads. -/

namespace PreparedSql

/-- The record that a relation join would attach to, given the root: the one at the end of the
path of relations that its chain continues. -/
def Hop.parent? (joins : List JoinEntry) (hop : Hop) (root : Record) :
    Except CompileError (Option Record) :=
  (Chain.parentPath joins hop).map root.at?

/-- Changes that record, within the root. -/
def Hop.modifyParent? (joins : List JoinEntry) (hop : Hop) (change : Record → Record)
    (root : Record) : Except CompileError (Option Record) :=
  (Chain.parentPath joins hop).map (root.modifyAt? change)

namespace SelectPlan

/-- The columns of a table in the row, each with its value. -/
def cells (plan : SelectPlan) (row : List Value) (table : TableRef) : List (Column × Value) :=
  (plan.layout.zip row).filterMap fun (slot, value) =>
    match slot with
    | .column selected =>
        if selected.table.key = table.key then some (selected.column, value) else none
    | .expression _ => none

def recordOf (plan : SelectPlan) (row : List Value) (table : TableRef) : Record :=
  { table := table.label
    values := (plan.cells row table).map fun (column, value) => (column.field, value) }

/-- The join found no row for the table: its selected primary key is NULL or, without one,
everything selected from it is. -/
def isUnmatched (plan : SelectPlan) (row : List Value) (table : TableRef) : Bool :=
  let cells := plan.cells row table
  let keys := cells.filter (·.1.primaryKey)
  if keys.isEmpty then cells.all (·.2.isNull) else keys.all (·.2.isNull)

/-- Attaches what one join found in the row; nothing if the record to attach it to is missing. -/
def attachJoin (plan : SelectPlan) (row : List Value) (root : Record) (entry : JoinEntry) :
    Except CompileError Record :=
  match entry.hop with
  | none => .ok root
  | some hop =>
      let table := entry.join.rightTable
      if plan.isUnmatched row table then .ok root
      else
        let attach := fun parent => parent.attach hop.relation (plan.recordOf row table)
        (hop.modifyParent? plan.joins attach root).map (·.getD root)

/-- The record graph of a row, joins taken in their order. -/
def readRow (plan : SelectPlan) (row : List Value) : Except CompileError Record :=
  plan.joins.foldlM (plan.attachJoin row) (plan.recordOf row plan.primary)

end SelectPlan

end PreparedSql
