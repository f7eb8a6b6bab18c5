import PreparedSql.Proofs.Chain.Followed
import PreparedSql.Proofs.Scoped.Names

/-! The SQL names of a derived table's columns. The derived table forgets which table a column of
the SELECT list came from, and it is not checked whether another one has the same name; so its names
are distinct only where no two tables give a column of one name. It has no columns for verbatim SQL
either, which may still put out a column of a name that it has; an outer statement means one output
of the SELECT list by a name only where neither happens. -/

namespace PreparedSql

/-- No two columns of the table have the same SQL name. -/
def Table.NamesApart (table : Table) : Prop :=
  (table.columns.map Column.name).Nodup

instance (table : Table) : Decidable table.NamesApart :=
  inferInstanceAs (Decidable (table.columns.map Column.name).Nodup)

theorem Table.NamesApart.eq_of_name {table : Table} (apart : table.NamesApart)
    {first second : Column} (here : first ∈ table.columns) (there : second ∈ table.columns)
    (same : first.name = second.name) : first = second :=
  List.inj_on_of_nodup_map apart here there same

namespace QualifiedColumn

/-- A column of its table, which has names for all its columns. -/
structure Proper (column : QualifiedColumn) : Prop where
  own : column.column ∈ column.table.table.columns
  apart : column.table.table.NamesApart

/-- The column that a derived table has for a selected one. -/
def output (column : QualifiedColumn) : Column :=
  { name := column.column.name, field := column.column.field, type := column.type }

end QualifiedColumn

theorem names_derivedTable (aliasName : String) (columns : List QualifiedColumn) :
    (Query.derivedTable aliasName columns).columns.map Column.name =
      columns.map (·.column.name) :=
  List.map_map

/-- What is selected under the SQL name comes from one table. -/
def FromOneTable (columns : List QualifiedColumn) (name : String) : Prop :=
  ∀ first ∈ columns, ∀ second ∈ columns,
    first.column.name = name → second.column.name = name → first.table = second.table

instance (columns : List QualifiedColumn) (name : String) :
    Decidable (FromOneTable columns name) :=
  inferInstanceAs (Decidable (∀ first ∈ columns, ∀ second ∈ columns, _ → _ → _))

/-- No SQL name is selected from two tables. -/
def NamedByOneTable (columns : List QualifiedColumn) : Prop :=
  ∀ column ∈ columns, FromOneTable columns column.column.name

instance (columns : List QualifiedColumn) : Decidable (NamedByOneTable columns) :=
  inferInstanceAs (Decidable (∀ column ∈ columns, _))

/-- Within one table a name is that of one column. -/
theorem QualifiedColumn.Proper.eq_of_name {first second : QualifiedColumn} (here : first.Proper)
    (there : second.Proper) (table : first.table = second.table)
    (name : first.column.name = second.column.name) : first = second := by
  obtain ⟨ref, column⟩ := first
  obtain ⟨ref', column'⟩ := second
  obtain rfl : ref = ref' := table
  exact congrArg (QualifiedColumn.mk ref) (here.apart.eq_of_name here.own there.own name)

/-- Columns that are listed once have names of their own when each name is from one table only. -/
theorem outputs_apart_iff {columns : List QualifiedColumn}
    (proper : ∀ column ∈ columns, column.Proper) (once : columns.Nodup) (aliasName : String) :
    (Query.derivedTable aliasName columns).NamesApart ↔ NamedByOneTable columns := by
  unfold Table.NamesApart
  rw [names_derivedTable]
  constructor
  · intro apart _ _ first here second there name name'
    have same := List.inj_on_of_nodup_map apart here there (name.trans name'.symm)
    exact congrArg QualifiedColumn.table same
  · intro single
    refine once.map_on fun first here second there same => ?_
    have table := single first here first here second there rfl same.symm
    exact (proper first here).eq_of_name (proper second there) table same

/-- Where no value stands twice, a value stands at one place. -/
theorem place_eq_of_nodup {α β : Type} {value? : α → Option β} {entries : List α}
    (apart : (entries.filterMap value?).Nodup) {place other : Nat} {entry entry' : α} {value : β}
    (here : entries[place]? = some entry) (there : entries[other]? = some entry')
    (held : value? entry = some value) (held' : value? entry' = some value) : other = place := by
  rw [List.Nodup, List.pairwise_filterMap, List.pairwise_iff_getElem] at apart
  obtain ⟨bound, rfl⟩ := List.getElem?_eq_some_iff.1 here
  obtain ⟨bound', rfl⟩ := List.getElem?_eq_some_iff.1 there
  rcases Nat.lt_trichotomy other place with before | same | behind
  · exact absurd rfl (apart other place bound' bound before value held' value held)
  · exact same
  · exact absurd rfl (apart place other bound bound' behind value held value held')

/-- The SQL names of the columns that a slot puts out: a column has its own name, and `labels` tells
those of verbatim SQL, which may put out one column, several or none. -/
def Slot.outputNames (labels : String → List String) : Slot → List String
  | .column selected => [selected.column.name]
  | .expression sql => labels sql

/-- One place of the SELECT list holds what the derived column is made from, and no other place puts
out a column of its SQL name. -/
def SoleOutput (labels : String → List String) (slots : List Slot) (column : Column) : Prop :=
  ∃ (place : Nat) (selected : QualifiedColumn),
    slots[place]? = some (.column selected) ∧ selected.output = column ∧
    ∀ (other : Nat) (slot : Slot), slots[other]? = some slot →
      column.name ∈ slot.outputNames labels → other = place

theorem exists_place_of_selected {slots : List Slot} {selected : QualifiedColumn}
    (among : selected ∈ slots.filterMap Slot.column?) :
    ∃ place : Nat, slots[place]? = some (.column selected) := by
  obtain ⟨slot, inside, held⟩ := List.mem_filterMap.1 among
  cases slot with
  | expression sql => cases held
  | column only =>
    cases held
    exact List.getElem?_of_mem inside

/-- A name means one output just when one table gives it and verbatim SQL does not. -/
theorem soleOutput_iff {slots : List Slot}
    (proper : ∀ column ∈ slots.filterMap Slot.column?, column.Proper)
    (once : (slots.filterMap Slot.column?).Nodup) {selected : QualifiedColumn}
    (among : selected ∈ slots.filterMap Slot.column?) (labels : String → List String) :
    SoleOutput labels slots selected.output ↔
      FromOneTable (slots.filterMap Slot.column?) selected.column.name ∧
        ∀ sql, .expression sql ∈ slots → selected.column.name ∉ labels sql := by
  constructor
  · rintro ⟨place, own, here, -, sole⟩
    -- Whatever is selected under the name stands where the column itself stands.
    have meant : ∀ namesake ∈ slots.filterMap Slot.column?,
        namesake.column.name = selected.column.name → namesake = own := by
      intro namesake listed name
      obtain ⟨other, there⟩ := exists_place_of_selected listed
      obtain rfl := sole other _ there (List.mem_singleton.2 name.symm)
      cases here.symm.trans there
      rfl
    constructor
    · intro first listed second listed' name name'
      rw [meant first listed name, meant second listed' name']
    · intro sql verbatim labelled
      obtain ⟨other, there⟩ := List.getElem?_of_mem verbatim
      obtain rfl := sole other _ there labelled
      cases here.symm.trans there
  · rintro ⟨single, unlabelled⟩
    obtain ⟨place, here⟩ := exists_place_of_selected among
    refine ⟨place, selected, here, rfl, fun other slot there named => ?_⟩
    have inside : slot ∈ slots := List.mem_of_getElem? there
    cases slot with
    | expression sql => exact absurd named (unlabelled sql inside)
    | column namesake =>
      have name : selected.column.name = namesake.column.name := List.mem_singleton.1 named
      have listed : namesake ∈ slots.filterMap Slot.column? :=
        List.mem_filterMap.2 ⟨_, inside, rfl⟩
      have table := single selected among namesake listed rfl name.symm
      have same := (proper selected among).eq_of_name (proper namesake listed) table name
      exact place_eq_of_nodup once here there rfl (congrArg some same.symm)

/-- Where its columns come from a table, their names are told apart. -/
def SelectEntry.NamesApart : SelectEntry → Prop
  | .all table => table.table.NamesApart
  | .column (.known selected) => selected.Proper
  | _ => True

namespace BuildStep

/-- The tables that the call brings along have names for all their columns. -/
def BringsNamesApart : BuildStep → Prop
  | .join added | .joinHop added _ =>
      added.leftTable.table.NamesApart ∧ added.rightTable.table.NamesApart
  | .select spec => (SelectEntry.column spec).NamesApart
  | .selectAll table => (SelectEntry.all table).NamesApart
  | _ => True

end BuildStep

namespace Query

/-- A query that is built, call by call, over a table of the schema, or over another such query that
lists no column twice and no SQL name from two tables. -/
inductive Over (schema : Schema) : Query → Prop where
  | ofTable {name : String} {aliasName : Option String} {query : Query} :
      Query.ofTable schema name aliasName = .ok query → Over schema query
  | ofQuery {inner query : Query} {slots : List Slot} {aliasName : String} :
      Over schema inner → inner.layout = .ok slots →
      (slots.filterMap Slot.column?).Nodup → NamedByOneTable (slots.filterMap Slot.column?) →
      Query.ofQuery inner aliasName = .ok query → Over schema query
  | step {query next : Query} {step : BuildStep} :
      Over schema query → step.BringsNamesApart → step.apply query = .ok next → Over schema next

theorem Over.run {schema : Schema} {query final : Query} {steps : List BuildStep}
    (built : query.Over schema) (brings : ∀ step ∈ steps, step.BringsNamesApart)
    (ran : BuildStep.run steps query = .ok final) : final.Over schema := by
  induction steps generalizing query with
  | nil =>
    cases ran
    exact built
  | cons step steps ih =>
    obtain ⟨next, applied, rest⟩ := Attempt.bind_eq_ok.1 ran
    obtain ⟨here, later⟩ := List.forall_mem_cons.1 brings
    exact ih (built.step here applied) later rest

/-- Every table that the query refers to has names for all its columns. -/
structure NamesApart (schema : Schema) (query : Query) : Prop where
  schema : query.schema = schema
  primary : query.primary.table.NamesApart
  joins : ∀ entry ∈ query.joins, ∀ ref ∈ entry.tables, ref.table.NamesApart
  selection : ∀ entry ∈ query.selection, entry.NamesApart

end Query

section Hops

variable {schema : Schema} {kind : JoinKind} {aliasName : Option String} {names : List String}
  {left : TableRef} {previous : Option Nat} {joins result : List JoinEntry}

theorem joinHops_namesApart (apart : ∀ table ∈ schema.tables, table.NamesApart)
    (start : left.table.NamesApart)
    (known : ∀ entry ∈ joins, ∀ ref ∈ entry.tables, ref.table.NamesApart)
    (ran : joinHops schema kind aliasName names left previous joins = .ok result) :
    ∀ entry ∈ result, ∀ ref ∈ entry.tables, ref.table.NamesApart := by
  induction names generalizing left previous joins with
  | nil =>
    cases ran
    exact known
  | cons name names ih =>
    obtain ⟨_, entry, _, rest, here, _, rfl | ⟨rfl, ⟨_, made⟩, -⟩⟩ := joinHops_cons ran
    · have tables := known entry (List.mem_of_getElem? here)
      exact ih (tables _ (List.mem_cons_of_mem _ List.mem_cons_self)) known rest
    · have leftTable : entry.join.leftTable.table.NamesApart :=
        (hopEntry_eq_ok made).2 ▸ start
      have rightTable : entry.join.rightTable.table.NamesApart :=
        apart _ (leads_of_hopEntry made).mem_tables
      have tables : ∀ ref ∈ entry.tables, ref.table.NamesApart :=
        List.forall_mem_cons.2 ⟨leftTable, List.forall_mem_singleton.2 rightTable⟩
      exact ih rightTable
        (List.forall_mem_append.2 ⟨known, List.forall_mem_singleton.2 tables⟩) rest

end Hops

/-- The columns of the slots are columns of their tables, which have names for all of them. -/
def ProperSlots (slots : List Slot) : Prop :=
  ∀ column ∈ slots.filterMap Slot.column?, column.Proper

theorem Table.NamesApart.properSlots {ref : TableRef} (apart : ref.table.NamesApart) :
    ProperSlots (ref.columns.map Slot.column) := by
  intro column member
  obtain ⟨slot, inside, held⟩ := List.mem_filterMap.1 member
  obtain ⟨_, among, rfl⟩ := List.mem_map.1 inside
  obtain ⟨own, listed, rfl⟩ := List.mem_map.1 among
  cases held
  exact ⟨listed, apart⟩

/-- A query over another one reads what its SELECT list holds. -/
theorem Query.ofQuery_eq_ok {inner outer : Query} {slots : List Slot} {aliasName : String}
    (laid : inner.layout = .ok slots) (derived : Query.ofQuery inner aliasName = .ok outer) :
    outer = {
      schema := inner.schema
      source := .derived
        { table := Query.derivedTable aliasName (slots.filterMap Slot.column?) } inner } := by
  unfold Query.ofQuery at derived
  split at derived
  next => cases derived
  next =>
    obtain ⟨columns, selected, rfl⟩ := Attempt.map_eq_ok.1 derived
    obtain ⟨again, laid', rfl⟩ := Attempt.map_eq_ok.1 selected
    cases laid.symm.trans laid'
    rfl

namespace Query.NamesApart

variable {schema : Schema} {query next : Query}

theorem sources (apart : query.NamesApart schema) :
    ∀ ref ∈ query.sources, ref.table.NamesApart := by
  intro ref member
  rcases mem_addSources member with primary | joined
  · rw [List.mem_singleton.1 primary]
    exact apart.primary
  · obtain ⟨entry, among, either⟩ := List.mem_flatMap.1 joined
    exact apart.joins entry among ref either

theorem proper_of_resolve (apart : query.NamesApart schema) {name : String}
    {column : QualifiedColumn} (found : query.resolve (.named name) = .ok column) :
    column.Proper := by
  obtain ⟨ref, among, _, looked⟩ := ColumnSpec.exists_column_of_resolve found
  obtain ⟨rfl, own⟩ := TableRef.column_eq_ok looked
  refine ⟨own, ?_⟩
  rcases List.mem_append.1 among with source | primary
  · exact apart.sources _ source
  · rw [List.mem_singleton.1 primary]
    exact apart.primary

theorem properSlots_of_entry (apart : query.NamesApart schema) {entry : SelectEntry}
    (member : entry ∈ query.selection) {slots : List Slot}
    (made : query.slots entry = .ok slots) : ProperSlots slots := by
  have names := apart.selection entry member
  cases entry with
  | all ref =>
    cases made
    exact names.properSlots
  | raw sql =>
    cases made
    exact List.forall_mem_nil _
  | column spec =>
    obtain ⟨own, found, rfl⟩ := Attempt.map_eq_ok.1 made
    refine List.forall_mem_singleton.2 ?_
    cases spec with
    | known selected =>
      cases found
      exact names
    | named name => exact apart.proper_of_resolve found

theorem properSlots (apart : query.NamesApart schema) {slots : List Slot}
    (laid : query.layout = .ok slots) : ProperSlots slots := by
  unfold layout at laid
  split at laid
  next =>
    cases laid
    exact apart.primary.properSlots
  next =>
    obtain ⟨parts, ran, rfl⟩ := Attempt.map_eq_ok.1 laid
    intro column member
    obtain ⟨slot, inside, held⟩ := List.mem_filterMap.1 member
    obtain ⟨part, among, here⟩ := List.mem_flatten.1 inside
    obtain ⟨entry, selected, made⟩ := Attempt.exists_of_mem_mapM ran among
    exact apart.properSlots_of_entry selected made column
      (List.mem_filterMap.2 ⟨slot, here, held⟩)

theorem ofTable (known : ∀ table ∈ schema.tables, table.NamesApart) {name : String}
    {aliasName : Option String} (began : Query.ofTable schema name aliasName = .ok query) :
    query.NamesApart schema := by
  obtain ⟨ref, found, rfl⟩ := Attempt.map_eq_ok.1 began
  obtain ⟨table, looked, rfl⟩ := Attempt.map_eq_ok.1 found
  exact ⟨rfl, known table (Schema.mem_tables_of_table looked), List.forall_mem_nil _,
    List.forall_mem_nil _⟩

theorem ofQuery {inner : Query} (apart : inner.NamesApart schema) {slots : List Slot}
    {aliasName : String} (laid : inner.layout = .ok slots)
    (once : (slots.filterMap Slot.column?).Nodup)
    (single : NamedByOneTable (slots.filterMap Slot.column?))
    (derived : Query.ofQuery inner aliasName = .ok query) : query.NamesApart schema := by
  have names := (outputs_apart_iff (apart.properSlots laid) once aliasName).2 single
  cases Query.ofQuery_eq_ok laid derived
  exact ⟨apart.schema, names, List.forall_mem_nil _, List.forall_mem_nil _⟩

theorem addJoin (apart : query.NamesApart schema) {entry : JoinEntry}
    (left : entry.join.leftTable.table.NamesApart)
    (right : entry.join.rightTable.table.NamesApart) :
    NamesApart schema { query with joins := query.joins ++ [entry] } where
  schema := apart.schema
  primary := apart.primary
  joins := List.forall_mem_append.2 ⟨apart.joins, List.forall_mem_singleton.2
    (List.forall_mem_cons.2 ⟨left, List.forall_mem_singleton.2 right⟩)⟩
  selection := apart.selection

theorem addSelections (apart : query.NamesApart schema) {entries : List SelectEntry}
    (names : ∀ entry ∈ entries, entry.NamesApart) :
    NamesApart schema { query with selection := query.selection ++ entries } where
  schema := apart.schema
  primary := apart.primary
  joins := apart.joins
  selection := List.forall_mem_append.2 ⟨apart.selection, names⟩

/-- No call brings in a table in which names stand twice. -/
theorem apply (known : ∀ table ∈ schema.tables, table.NamesApart) {step : BuildStep}
    (apart : query.NamesApart schema) (brings : step.BringsNamesApart)
    (applied : step.apply query = .ok next) : next.NamesApart schema := by
  cases step with
  | joinRelation path kind aliasName =>
    obtain ⟨joins, ran, done⟩ := Attempt.bind_eq_ok.1 applied
    cases Attempt.pure_eq_ok.1 done
    rw [apart.schema] at ran
    exact ⟨apart.schema, apart.primary, joinHops_namesApart known apart.primary apart.joins ran,
      apart.selection⟩
  | join added =>
    cases applied
    exact apart.addJoin brings.1 brings.2
  | joinHop added hop =>
    cases applied
    exact apart.addJoin brings.1 brings.2
  | select spec =>
    cases applied
    exact apart.addSelections (List.forall_mem_singleton.2 brings)
  | selectAll table =>
    cases applied
    exact apart.addSelections (List.forall_mem_singleton.2 brings)
  | selectRaw sql =>
    cases applied
    exact apart.addSelections (List.forall_mem_singleton.2 trivial)
  | selectWithJoins =>
    cases applied
    refine apart.addSelections (List.forall_mem_cons.2 ⟨apart.primary, ?_⟩)
    refine List.forall_mem_map.2 fun entry among => ?_
    exact apart.joins entry among _ (List.mem_cons_of_mem _ List.mem_cons_self)
  | _ =>
    cases applied
    exact ⟨apart.schema, apart.primary, apart.joins, apart.selection⟩

/-- The induction is on the calls, and through the queries that are read from, level by level. -/
theorem of_over (known : ∀ table ∈ schema.tables, table.NamesApart) (built : query.Over schema) :
    query.NamesApart schema := by
  induction built with
  | ofTable began => exact .ofTable known began
  | ofQuery _ laid once single derived ih => exact ih.ofQuery laid once single derived
  | step _ brings applied ih => exact ih.apply known brings applied

end Query.NamesApart

/-- The names of a derived table over a query that lists no column twice are distinct just when the
query does not list one SQL name from two tables. Each of its columns is written with the name of a
column of the SELECT list, and means the one it was made from and no other output just when this
name is listed from one table and no verbatim SQL puts out a column of it, whatever the names are
that verbatim SQL gives to its columns. -/
theorem derived_names_apart_iff {schema : Schema}
    (known : ∀ table ∈ schema.tables, table.NamesApart) {inner outer : Query} {slots : List Slot}
    {aliasName : String} (built : inner.Over schema) (laid : inner.layout = .ok slots)
    (once : (slots.filterMap Slot.column?).Nodup)
    (derived : Query.ofQuery inner aliasName = .ok outer) :
    (outer.primary.table.NamesApart ↔ NamedByOneTable (slots.filterMap Slot.column?)) ∧
    ∀ column ∈ outer.primary.columns,
      column.sql = aliasName ++ "." ++ column.column.name ∧
      ∀ labels : String → List String, SoleOutput labels slots column.column ↔
        FromOneTable (slots.filterMap Slot.column?) column.column.name ∧
          ∀ sql, .expression sql ∈ slots → column.column.name ∉ labels sql := by
  have proper := (Query.NamesApart.of_over known built).properSlots laid
  cases Query.ofQuery_eq_ok laid derived
  refine ⟨outputs_apart_iff proper once aliasName, fun column member => ?_⟩
  obtain ⟨own, among, rfl⟩ := List.mem_map.1 member
  obtain ⟨selected, listed, rfl⟩ := List.mem_map.1 among
  exact ⟨rfl, soleOutput_iff proper once listed⟩

/-- All columns of a review and of its book. -/
def reviewedBooks : List BuildStep :=
  [.joinRelation "Book" .inner none, .selectWithJoins]

/-- The `id` of a book, and verbatim SQL that calls another of its columns so. -/
def relabelledBooks : List BuildStep :=
  [.select (.named "id"), .selectRaw "book.author_id AS id"]

/-- Both tables have an `id`, and the derived table has two columns of this name. With one `id` in
the derived table, verbatim SQL below it puts out a second one. -/
theorem derived_names_clash :
    (∃ start inner slots outer, (∀ table ∈ readingSchema.tables, table.NamesApart) ∧
      Query.ofTable readingSchema "review" (some "r") = .ok start ∧
      BuildStep.run reviewedBooks start = .ok inner ∧ inner.Over readingSchema ∧
      (inner.joinedTables.map TableRef.label).Nodup ∧ inner.layout = .ok slots ∧
      (slots.filterMap Slot.column?).Nodup ∧ Query.ofQuery inner "d" = .ok outer ∧
      outer.primary.columns.map QualifiedColumn.sql =
        ["d.id", "d.book_id", "d.id", "d.author_id", "d.editor_id"] ∧
      ¬ outer.primary.table.NamesApart) ∧
    ∃ start inner slots outer, Query.ofTable readingSchema "book" none = .ok start ∧
      BuildStep.run relabelledBooks start = .ok inner ∧ inner.Over readingSchema ∧
      (inner.joinedTables.map TableRef.label).Nodup ∧ inner.layout = .ok slots ∧
      (slots.filterMap Slot.column?).Nodup ∧ Query.ofQuery inner "d" = .ok outer ∧
      outer.primary.columns.map QualifiedColumn.sql = ["d.id"] ∧
      (∃ plan, outer.selectPlan .sqlite = .ok plan ∧ plan.statement.sql =
        "SELECT d.id FROM (SELECT book.id, book.author_id AS id FROM book) AS d") ∧
      ∀ labels : String → List String, "id" ∈ labels "book.author_id AS id" →
        ∀ column ∈ outer.primary.columns, ¬ SoleOutput labels slots column.column := by
  constructor
  · have brings : ∀ step ∈ reviewedBooks, step.BringsNamesApart :=
      List.forall_mem_cons.2 ⟨trivial, List.forall_mem_singleton.2 trivial⟩
    have built := Query.Over.run
      (.ofTable (rfl : Query.ofTable readingSchema "review" (some "r") = _)) brings rfl
    exact ⟨_, _, _, _, by decide, rfl, rfl, built, by decide, rfl, by decide, rfl, by decide,
      by decide⟩
  · have brings : ∀ step ∈ relabelledBooks, step.BringsNamesApart :=
      List.forall_mem_cons.2 ⟨trivial, List.forall_mem_singleton.2 trivial⟩
    have built := Query.Over.run
      (.ofTable (rfl : Query.ofTable readingSchema "book" none = _)) brings rfl
    refine ⟨_, _, _, _, rfl, rfl, built, by decide, rfl, by decide, rfl, by decide,
      ⟨_, rfl, rfl⟩, ?_⟩
    rintro labels labelled column member ⟨place, selected, -, -, sole⟩
    cases List.mem_singleton.1 member
    have first := sole 0 _ rfl List.mem_cons_self
    have second := sole 1 _ rfl labelled
    omega

/-- Reviews with their books, but the `id` of the book only. -/
def authorSteps : List BuildStep :=
  let book : TableRef := { table := readingSchema.tables.getD 1 default }
  [.joinRelation "Book" .inner none, .select (.named "book_id"), .selectAll book]

/-- These authors, looked up among the people: of two tables with an `id` one gives its own. -/
def personSteps : List BuildStep :=
  let column (name : String) : Column := { name, type := .integer }
  let authors : TableRef :=
    { table := { name := "d", columns := ["book_id", "id", "author_id", "editor_id"].map column } }
  let person : TableRef := { table := readingSchema.tables.getD 2 default, aliasName := some "p" }
  let found : ColumnPair :=
    ⟨⟨authors, column "author_id"⟩, ⟨person, { column "id" with primaryKey := true }⟩⟩
  [.join { kind := .inner, first := found }, .selectRaw "COUNT(*)",
    .select (.named "D.author_id"), .selectAll person]

/-- Verbatim SQL without an alias is named by its own text. -/
theorem derived_names_apart_iff_people :
    ∃ start books read inner slots outer, (∀ table ∈ readingSchema.tables, table.NamesApart) ∧
      Query.ofTable readingSchema "review" (some "r") = .ok start ∧
      BuildStep.run authorSteps start = .ok books ∧ Query.ofQuery books "d" = .ok read ∧
      BuildStep.run personSteps read = .ok inner ∧ inner.Over readingSchema ∧
      inner.layout = .ok slots ∧ (slots.filterMap Slot.column?).Nodup ∧
      Query.ofQuery inner "e" = .ok outer ∧ outer.primary.table.NamesApart ∧
      .expression "COUNT(*)" ∈ slots ∧
      outer.primary.columns.map QualifiedColumn.sql = ["e.author_id", "e.id", "e.mentor_id"] ∧
      ∀ column ∈ outer.primary.columns, SoleOutput (fun sql => [sql]) slots column.column := by
  have known : ∀ table ∈ readingSchema.tables, table.NamesApart := by decide
  have brings : ∀ step ∈ authorSteps, step.BringsNamesApart :=
    List.forall_mem_cons.2 ⟨trivial, List.forall_mem_cons.2 ⟨trivial,
      List.forall_mem_singleton.2 (known _ (by decide))⟩⟩
  have brings' : ∀ step ∈ personSteps, step.BringsNamesApart :=
    List.forall_mem_cons.2 ⟨⟨by decide, known _ (by decide)⟩,
      List.forall_mem_cons.2 ⟨trivial, List.forall_mem_cons.2 ⟨trivial,
        List.forall_mem_singleton.2 (known _ (by decide))⟩⟩⟩
  have unlabelled {slots : List Slot} {name : String} (each : ∀ slot ∈ slots,
      slot.column? = none → name ∉ slot.outputNames fun sql => [sql]) (sql : String)
      (inside : .expression sql ∈ slots) : name ∉ [sql] := each (.expression sql) inside rfl
  have books := Query.Over.run
    (.ofTable (rfl : Query.ofTable readingSchema "review" (some "r") = _)) brings rfl
  have read := books.ofQuery rfl (by decide) (by decide) (rfl : Query.ofQuery _ "d" = _)
  have inner := Query.Over.run read brings' rfl
  have apart := derived_names_apart_iff known inner rfl (by decide)
    (rfl : Query.ofQuery _ "e" = _)
  refine ⟨_, _, _, _, _, _, known, rfl, rfl, rfl, rfl, inner, rfl, by decide, rfl,
    apart.1.2 (by decide), by decide, by decide, fun column member => ?_⟩
  refine ((apart.2 column member).2 _).2 ⟨?_, ?_⟩
  · revert column member
    decide
  · refine unlabelled ?_
    revert column member
    decide

end PreparedSql
