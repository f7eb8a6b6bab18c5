import PreparedSql.Dialect.Standard
import PreparedSql.Proofs.BuildSteps
import PreparedSql.Proofs.Chain.Followed
import PreparedSql.Proofs.Nested.Within

/-! SELECT lists with nothing in them. A query that names no columns shows those of its primary
table, and a derived table has the columns that are selected below it, but not the expressions. So
over tables that all have columns a list is empty just when everything it shows is a derived table
over expressions, through however many levels. -/

namespace PreparedSql

namespace BuildStep

/-- The tables named by a call whose columns may be selected all together. -/
def tables : BuildStep → List TableRef
  | .selectAll table => [table]
  | .join added | .joinHop added _ => [added.rightTable]
  | _ => []

/-- The queries in the condition that a call brings along. -/
def queries : BuildStep → List Query
  | .filter predicate | .having predicate => predicate.tests.filterMap Test.query?
  | _ => []

/-- A call brings no queries but these. -/
theorem mem_innerQueries_apply {step : BuildStep} {query next inner : Query}
    (applied : step.apply query = .ok next) (member : inner ∈ next.innerQueries) :
    inner ∈ query.innerQueries ∨ inner ∈ step.queries := by
  cases step with
  | joinRelation path kind aliasName =>
    obtain ⟨joins, -, done⟩ := Attempt.bind_eq_ok.1 applied
    cases Attempt.pure_eq_ok.1 done
    exact Or.inl member
  | filter predicate | having predicate =>
    cases applied
    simp only [Query.innerQueries, Query.tests, Query.filter, Query.having,
      Predicate.testsOfAll_eq_flatMap, List.flatMap_append, List.flatMap_singleton,
      List.filterMap_append, List.mem_append] at member ⊢
    unfold queries
    tauto
  | _ =>
    cases applied
    exact Or.inl member

end BuildStep

mutual

/-- A query that calls make over the tables of a schema, and over other queries made so. Its
verbatim SELECT entries have a text. -/
inductive Query.BuiltOn (schema : Schema) : Query → Prop where
  | ofTable {name : String} {aliasName : Option String} {query : Query} :
      Query.ofTable schema name aliasName = .ok query → Query.BuiltOn schema query
  | ofQuery {inner query : Query} {aliasName : String} :
      Query.BuiltOn schema inner → Query.ofQuery inner aliasName = .ok query →
        Query.BuiltOn schema query
  | step {query next : Query} {step : BuildStep} :
      Query.BuiltOn schema query → (∀ ref ∈ step.tables, Table.Offered schema ref.table) →
        (∀ inner ∈ step.queries, Query.BuiltOn schema inner) → step ≠ .selectRaw "" →
          step.apply query = .ok next → Query.BuiltOn schema next

/-- A table of the schema, or one that a query over the schema reads from. -/
inductive Table.Offered (schema : Schema) : Table → Prop where
  | known {table : Table} : table ∈ schema.tables → Table.Offered schema table
  | primary {query : Query} :
      Query.BuiltOn schema query → Table.Offered schema query.primary.table

end

/-- The entries in effect: without a SELECT list, all of the primary table. -/
def Query.shown (query : Query) : List SelectEntry :=
  if query.selection = [] then [.all query.primary] else query.selection

/-- A derived table without columns: its rows show expressions, and the columns of tables that have
none themselves. -/
inductive Table.Hollow (schema : Schema) : Table → Prop where
  | derived {rows : Query} {aliasName : String} : rows.BuiltOn schema →
      (∀ spec, SelectEntry.column spec ∉ rows.shown) →
        (∀ ref, SelectEntry.all ref ∈ rows.shown → Table.Hollow schema ref.table) →
          Table.Hollow schema (Query.derivedTable aliasName [])

theorem Table.Hollow.columns {schema : Schema} {table : Table} (hollow : table.Hollow schema) :
    table.columns = [] := by
  cases hollow
  rfl

/-- A table has columns, unless it is a derived one over expressions. -/
def Table.Accounted (schema : Schema) (table : Table) : Prop :=
  table.columns = [] → table.Hollow schema

theorem Table.Accounted.columns_eq_nil_iff {schema : Schema} {table : Table}
    (accounted : table.Accounted schema) : table.columns = [] ↔ table.Hollow schema :=
  ⟨accounted, Table.Hollow.columns⟩

theorem TableRef.columns_eq_nil_iff {ref : TableRef} :
    ref.columns = [] ↔ ref.table.columns = [] :=
  List.map_eq_nil_iff

namespace SelectEntry

variable {schema : Schema} {query : Query}

/-- A verbatim entry has a text, and a table shown as a whole is accounted for. -/
def Accounted (schema : Schema) : SelectEntry → Prop
  | .all ref => ref.table.Accounted schema
  | .column _ => True
  | .raw sql => sql ≠ ""

/-- The entry shows a hollow table, that is nothing. -/
def Empty (schema : Schema) (entry : SelectEntry) : Prop :=
  ∃ ref, entry = .all ref ∧ ref.table.Hollow schema

/-- What the entry shows has no column. -/
def Columnless (schema : Schema) : SelectEntry → Prop
  | .all ref => ref.table.Hollow schema
  | .column _ => False
  | .raw _ => True

variable {entry : SelectEntry} {part : List Slot}

theorem Accounted.slots_eq_nil_iff (accounted : entry.Accounted schema)
    (made : query.slots entry = .ok part) : part = [] ↔ entry.Empty schema := by
  cases entry with
  | all ref =>
    cases made
    rw [List.map_eq_nil_iff, TableRef.columns_eq_nil_iff,
      Table.Accounted.columns_eq_nil_iff accounted]
    exact ⟨fun hollow => ⟨ref, rfl, hollow⟩, fun ⟨_, rfl, hollow⟩ => hollow⟩
  | column spec =>
    obtain ⟨column, -, rfl⟩ := Attempt.map_eq_ok.1 made
    exact ⟨nofun, nofun⟩
  | raw sql =>
    cases made
    exact ⟨nofun, nofun⟩

theorem Accounted.columns_eq_nil_iff (accounted : entry.Accounted schema)
    (made : query.slots entry = .ok part) :
    part.filterMap Slot.column? = [] ↔ entry.Columnless schema := by
  cases entry with
  | all ref =>
    cases made
    have all : (ref.columns.map Slot.column).filterMap Slot.column? = ref.columns := by
      rw [List.filterMap_map]
      exact List.filterMap_some
    rw [all, TableRef.columns_eq_nil_iff, Table.Accounted.columns_eq_nil_iff accounted]
    exact Iff.rfl
  | column spec =>
    obtain ⟨column, -, rfl⟩ := Attempt.map_eq_ok.1 made
    exact ⟨nofun, nofun⟩
  | raw sql =>
    cases made
    exact ⟨fun _ => trivial, fun _ => rfl⟩

theorem Accounted.sql_ne_empty (accounted : entry.Accounted schema)
    (made : query.slots entry = .ok part) : ∀ slot ∈ part, slot.sql ≠ "" := by
  have qualified (column : QualifiedColumn) : (Slot.column column).sql ≠ "" := by
    simp [Slot.sql, QualifiedColumn.sql]
  cases entry with
  | all ref =>
    cases made
    exact List.forall_mem_map.2 fun column _ => qualified column
  | column spec =>
    obtain ⟨column, -, rfl⟩ := Attempt.map_eq_ok.1 made
    exact List.forall_mem_singleton.2 (qualified column)
  | raw sql =>
    cases made
    exact List.forall_mem_singleton.2 accounted

end SelectEntry

namespace Query

variable {schema : Schema} {query next inner : Query} {slots : List Slot}

/-- The query shows hollow tables, that is nothing. -/
def Hollow (schema : Schema) (query : Query) : Prop :=
  ∀ entry ∈ query.shown, entry.Empty schema

theorem layout_eq_shown (query : Query) :
    query.layout = (query.shown.mapM query.slots).map List.flatten := by
  unfold layout shown
  cases query.selection with
  | nil => exact congrArg Except.ok (List.append_nil _).symm
  | cons entry entries => rfl

/-- Every table whose columns may be selected all together is accounted for. -/
structure Accounted (schema : Schema) (query : Query) : Prop where
  sameSchema : query.schema = schema
  primary : query.primary.table.Accounted schema
  joins : ∀ entry ∈ query.joins, entry.join.rightTable.table.Accounted schema
  selection : ∀ entry ∈ query.selection, entry.Accounted schema
  inner : ∀ inner ∈ query.innerQueries, inner.BuiltOn schema

namespace Accounted

theorem shown (accounted : query.Accounted schema) :
    ∀ entry ∈ query.shown, entry.Accounted schema := by
  unfold Query.shown
  split
  next => exact List.forall_mem_singleton.2 accounted.primary
  next => exact accounted.selection

theorem layout_eq_nil_iff (accounted : query.Accounted schema)
    (laid : query.layout = .ok slots) : slots = [] ↔ query.Hollow schema := by
  rw [layout_eq_shown] at laid
  obtain ⟨parts, ran, rfl⟩ := Attempt.map_eq_ok.1 laid
  rw [List.flatten_eq_nil_iff]
  exact Attempt.forall_mem_mapM_iff ran fun entry member _ made =>
    (accounted.shown entry member).slots_eq_nil_iff made

/-- The columns of a derived table over the query are none just when it shows none. -/
theorem columns_eq_nil_iff (accounted : query.Accounted schema)
    (laid : query.layout = .ok slots) :
    slots.filterMap Slot.column? = [] ↔ ∀ entry ∈ query.shown, entry.Columnless schema := by
  rw [layout_eq_shown] at laid
  obtain ⟨parts, ran, rfl⟩ := Attempt.map_eq_ok.1 laid
  rw [List.filterMap_flatten, List.flatten_eq_nil_iff, List.forall_mem_map]
  exact Attempt.forall_mem_mapM_iff ran fun entry member _ made =>
    (accounted.shown entry member).columns_eq_nil_iff made

theorem sql_ne_empty (accounted : query.Accounted schema) (laid : query.layout = .ok slots) :
    ∀ slot ∈ slots, slot.sql ≠ "" := by
  rw [layout_eq_shown] at laid
  obtain ⟨parts, ran, rfl⟩ := Attempt.map_eq_ok.1 laid
  intro slot member
  obtain ⟨part, among, here⟩ := List.mem_flatten.1 member
  obtain ⟨entry, listed, made⟩ := Attempt.exists_of_mem_mapM ran among
  exact (accounted.shown entry listed).sql_ne_empty made slot here

theorem ofTable (filled : ∀ table ∈ schema.tables, table.columns ≠ []) {name : String}
    {aliasName : Option String} (began : Query.ofTable schema name aliasName = .ok query) :
    query.Accounted schema := by
  obtain ⟨ref, found, rfl⟩ := Attempt.map_eq_ok.1 began
  obtain ⟨table, looked, rfl⟩ := Attempt.map_eq_ok.1 found
  have some := filled table (Schema.mem_tables_of_table looked)
  exact ⟨rfl, fun none => absurd none some, List.forall_mem_nil _, List.forall_mem_nil _,
    List.forall_mem_nil _⟩

/-- The derived table over a query is accounted for by what the query shows. -/
theorem ofQuery (accounted : inner.Accounted schema) (built : inner.BuiltOn schema)
    {aliasName : String} (derived : Query.ofQuery inner aliasName = .ok query) :
    query.Accounted schema := by
  unfold Query.ofQuery at derived
  split at derived
  next => cases derived
  next =>
    obtain ⟨columns, selected, rfl⟩ := Attempt.map_eq_ok.1 derived
    obtain ⟨slots, laid, rfl⟩ := Attempt.map_eq_ok.1 selected
    have primary : (derivedTable aliasName (slots.filterMap Slot.column?)).Accounted schema := by
      -- Outside there is one column for each that is selected below, so none means none there.
      intro none
      have empty := List.map_eq_nil_iff.1 none
      have columnless := (accounted.columns_eq_nil_iff laid).1 empty
      rw [empty]
      exact .derived built (fun _ member => columnless _ member)
        (fun _ member => columnless _ member)
    exact ⟨accounted.sameSchema, primary, List.forall_mem_nil _, List.forall_mem_nil _,
      List.forall_mem_singleton.2 built⟩

theorem addJoin (accounted : query.Accounted schema) {entry : JoinEntry}
    (right : entry.join.rightTable.table.Accounted schema) :
    Accounted schema { query with joins := query.joins ++ [entry] } where
  sameSchema := accounted.sameSchema
  primary := accounted.primary
  joins := List.forall_mem_append.2 ⟨accounted.joins, List.forall_mem_singleton.2 right⟩
  selection := accounted.selection
  inner := accounted.inner

theorem addSelections (accounted : query.Accounted schema) {entries : List SelectEntry}
    (each : ∀ entry ∈ entries, entry.Accounted schema) :
    Accounted schema { query with selection := query.selection ++ entries } where
  sameSchema := accounted.sameSchema
  primary := accounted.primary
  joins := accounted.joins
  selection := List.forall_mem_append.2 ⟨accounted.selection, each⟩
  inner := accounted.inner

theorem joinHops (filled : ∀ table ∈ schema.tables, table.columns ≠ []) {kind : JoinKind}
    {names : List String} {previous : Option Nat} {left : TableRef} {aliasName : Option String}
    {joins result : List JoinEntry}
    (accounted : ∀ entry ∈ joins, entry.join.rightTable.table.Accounted schema)
    (ran : PreparedSql.joinHops schema kind aliasName names left previous joins = .ok result) :
    ∀ entry ∈ result, entry.join.rightTable.table.Accounted schema := by
  intro entry member
  rcases mem_joinHops ran entry member with old | ⟨_, _, _, _, made⟩
  · exact accounted entry old
  · exact fun none => absurd none (filled _ (leads_of_hopEntry made).mem_tables)

/-- No call brings in a table that is not accounted for. -/
theorem apply (filled : ∀ table ∈ schema.tables, table.columns ≠ []) {step : BuildStep}
    (accounted : query.Accounted schema)
    (tables : ∀ ref ∈ step.tables, ref.table.Accounted schema)
    (queries : ∀ inner ∈ step.queries, inner.BuiltOn schema) (written : step ≠ .selectRaw "")
    (applied : step.apply query = .ok next) : next.Accounted schema := by
  have inner : ∀ inner ∈ next.innerQueries, inner.BuiltOn schema := by
    intro inner member
    rcases BuildStep.mem_innerQueries_apply applied member with old | new
    · exact accounted.inner inner old
    · exact queries inner new
  cases step with
  | joinRelation path kind aliasName =>
    obtain ⟨joins, ran, done⟩ := Attempt.bind_eq_ok.1 applied
    cases Attempt.pure_eq_ok.1 done
    rw [accounted.sameSchema] at ran
    exact ⟨accounted.sameSchema, accounted.primary, joinHops filled accounted.joins ran,
      accounted.selection, inner⟩
  | join added =>
    cases applied
    exact accounted.addJoin (tables _ List.mem_cons_self)
  | joinHop added hop =>
    cases applied
    exact accounted.addJoin (tables _ List.mem_cons_self)
  | select spec =>
    cases applied
    exact accounted.addSelections (List.forall_mem_singleton.2 trivial)
  | selectAll table =>
    cases applied
    exact accounted.addSelections (List.forall_mem_singleton.2 (tables _ List.mem_cons_self))
  | selectRaw sql =>
    cases applied
    refine accounted.addSelections (List.forall_mem_singleton.2 ?_)
    exact fun empty => written (congrArg BuildStep.selectRaw empty)
  | selectWithJoins =>
    cases applied
    refine accounted.addSelections (List.forall_mem_cons.2 ⟨accounted.primary, ?_⟩)
    exact List.forall_mem_map.2 accounted.joins
  | _ =>
    cases applied
    exact ⟨accounted.sameSchema, accounted.primary, accounted.joins, accounted.selection, inner⟩

end Accounted

end Query

section Built

variable {schema : Schema} (filled : ∀ table ∈ schema.tables, table.columns ≠ [])

include filled

mutual

/-- The induction is on the calls, through the queries that are read from and those whose tables
are named. -/
theorem Query.BuiltOn.accounted : {query : Query} → query.BuiltOn schema → query.Accounted schema
  | _, .ofTable began => .ofTable filled began
  | _, .ofQuery below derived => below.accounted.ofQuery below derived
  | _, .step built tables queries written applied =>
      built.accounted.apply filled (fun ref member => (tables ref member).accounted) queries
        written applied

theorem Table.Offered.accounted : {table : Table} → table.Offered schema → table.Accounted schema
  | table, .known member => fun none => absurd none (filled table member)
  | _, .primary built => built.accounted.primary

end

/-- The queries inside a query that is built over a schema are built over it too. -/
theorem Query.BuiltOn.of_within {query inner : Query} (built : query.BuiltOn schema)
    (within : inner.Within query) : inner.BuiltOn schema := by
  induction within with
  | refl => exact built
  | inner member _ ih => exact ih ((built.accounted filled).inner _ member)

end Built

theorem intercalate_eq_empty_iff {separator : String} {texts : List String}
    (some : ∀ text ∈ texts, text ≠ "") : separator.intercalate texts = "" ↔ texts = [] := by
  cases texts with
  | nil => exact ⟨fun _ => rfl, fun _ => rfl⟩
  | cons first rest =>
    have here : first ≠ "" := some first List.mem_cons_self
    cases rest with
    | nil => simp [here]
    | cons second others => simp [String.intercalate_cons_cons, here]

/-- Over tables that all have columns, a SELECT selects nothing just when everything it shows is a
derived table over expressions. This goes for the query as for all queries in it, each of which
stands in the statement as its own SELECT, and their lists are written out accordingly. -/
theorem selects_nothing_iff {schema : Schema}
    (filled : ∀ table ∈ schema.tables, table.columns ≠ []) {query : Query}
    (built : query.BuiltOn schema) {dialect : Dialect} {plan : SelectPlan}
    (planned : query.selectPlan dialect = .ok plan) (inner : Query)
    (within : inner.Within query) :
    ∃ own, inner.selectPlan dialect = .ok own ∧
      plan.statement.fragment.Contains own.statement.fragment ∧
      (own.layout = [] ↔ inner.Hollow schema) ∧
      (∃ rest, own.statement.sql =
        "SELECT " ++ (if inner.isDistinct then "DISTINCT " else "") ++
          ", ".intercalate (own.layout.map Slot.sql) ++ " FROM " ++ rest) ∧
      (", ".intercalate (own.layout.map Slot.sql) = "" ↔ inner.Hollow schema) := by
  obtain ⟨own, selected, stands⟩ := Query.contains_of_within within planned
  have accounted := (built.of_within filled within).accounted filled
  obtain ⟨laid, source, behind, -, written⟩ := Query.selectPlan_origin selected
  have empty := accounted.layout_eq_nil_iff laid
  refine ⟨own, selected, stands, empty, ?_, ?_⟩
  · refine ⟨source.sql ++ behind.sql, (congrArg Fragment.sql written).trans ?_⟩
    rw [Query.selectList]
    simp only [Fragment.sql_append, Fragment.sql_text, String.append_assoc]
  · have texts : ∀ text ∈ own.layout.map Slot.sql, text ≠ "" :=
      List.forall_mem_map.2 (accounted.sql_ne_empty laid)
    rw [intercalate_eq_empty_iff texts, List.map_eq_nil_iff, empty]

def notesSchema : Schema :=
  { name := "notes"
    tables := [{ name := "note", columns := [{ name := "id", type := .integer }] }] }

/-- All notes, each of them with all its columns. -/
def allNotes : Query :=
  { schema := notesSchema, source := .table { table := notesSchema.tables.getD 0 default } }

/-- How many notes there are. -/
def countedNotes : Query :=
  allNotes.selectRaw "COUNT(*)"

/-- All columns of the derived table over that. -/
def overCount : Query :=
  { schema := notesSchema
    source := .derived { table := Query.derivedTable "d" [] } countedNotes }

theorem builtOn_allNotes : allNotes.BuiltOn notesSchema :=
  .ofTable (rfl : Query.ofTable notesSchema "note" = _)

theorem builtOn_countedNotes : countedNotes.BuiltOn notesSchema := by
  have written : BuildStep.selectRaw "COUNT(*)" ≠ .selectRaw "" := by simp
  exact .step builtOn_allNotes (List.forall_mem_nil _) (List.forall_mem_nil _) written rfl

theorem builtOn_overCount : overCount.BuiltOn notesSchema :=
  .ofQuery builtOn_countedNotes (rfl : Query.ofQuery countedNotes "d" = _)

/-- The number of notes is an expression, and the derived table over it has no column to show. -/
theorem nothing_selected_notes :
    (∀ table ∈ notesSchema.tables, table.columns ≠ []) ∧ overCount.BuiltOn notesSchema ∧
      ∃ plan, overCount.selectPlan .sqlite = .ok plan ∧ plan.layout = [] ∧
        plan.statement.sql = "SELECT  FROM (SELECT COUNT(*) FROM note) AS d" := by
  refine ⟨by decide, builtOn_overCount, ?_⟩
  exact ⟨_, rfl, rfl, by decide +kernel⟩

/-- The notes among what is no column. -/
def notesAmongNothing : Query :=
  allNotes.filter (.inQuery (.named "id") .isIn overCount)

theorem selects_nothing_iff_notes :
    (∀ table ∈ notesSchema.tables, table.columns ≠ []) ∧ notesAmongNothing.BuiltOn notesSchema ∧
      ∃ plan nothing count, notesAmongNothing.selectPlan .postgres = .ok plan ∧
        overCount.selectPlan .postgres = .ok nothing ∧ nothing.layout = [] ∧
        countedNotes.selectPlan .postgres = .ok count ∧ count.layout ≠ [] ∧
        plan.statement.fragment.Contains count.statement.fragment := by
  have filled : ∀ table ∈ notesSchema.tables, table.columns ≠ [] := by decide
  have built : notesAmongNothing.BuiltOn notesSchema := by
    have queries : ∀ inner ∈ (BuildStep.filter (.inQuery (.named "id") .isIn overCount)).queries,
        inner.BuiltOn notesSchema := List.forall_mem_singleton.2 builtOn_overCount
    exact .step builtOn_allNotes (List.forall_mem_nil _) queries nofun rfl
  have hollow : overCount.Hollow notesSchema := by
    refine List.forall_mem_singleton.2 ⟨_, rfl, .derived builtOn_countedNotes ?_ ?_⟩
    · intro spec member
      cases List.mem_singleton.1 member
    · intro ref member
      cases List.mem_singleton.1 member
  have solid : ¬ countedNotes.Hollow notesSchema := by
    intro empty
    obtain ⟨ref, same, -⟩ := empty _ List.mem_cons_self
    cases same
  have lists := @selects_nothing_iff _ filled _ built .postgres _ rfl
  obtain ⟨nothing, selected, -, empty, -⟩ := lists overCount (.inner List.mem_cons_self .refl)
  obtain ⟨count, selected', stands, some, -⟩ := lists countedNotes
    (.inner List.mem_cons_self (.inner List.mem_cons_self .refl))
  exact ⟨filled, built, _, nothing, count, rfl, selected, empty.2 hollow, selected',
    fun none => solid (some.1 none), stands⟩

end PreparedSql
