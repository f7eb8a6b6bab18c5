import Mathlib.Logic.Relation
import PreparedSql.Proofs.Nested.OutputNames
import PreparedSql.Proofs.Nested.Within

/-! What a row holds is told three times: by the SELECT list that is written, by the layout that
rows are read with, and by the derived table that a query over these rows looks its columns up in. All
three describe the same columns in the same order, at any depth of queries over queries. -/

namespace PreparedSql

/-- The statement selects from the rows of the inner one, which stands in its FROM clause as it is
and whose parameters come first. -/
def Statement.SelectsFrom (inner : Statement) (list aliasName : String) (outer : Statement) :
    Prop :=
  ∃ rest others,
    outer.sql = "SELECT " ++ list ++ " FROM (" ++ inner.sql ++ ") AS " ++ aliasName ++ rest ∧
    outer.binds = inner.binds ++ others

/-- The inner statement stands in parentheses in the outer one, whose parameters begin with its. -/
structure Statement.Encloses (outer inner : Statement) : Prop where
  sql : ∃ front back, outer.sql = front ++ "(" ++ inner.sql ++ ")" ++ back
  binds : inner.binds <+: outer.binds

namespace Statement

variable {inner middle outer : Statement} {list aliasName : String}

theorem SelectsFrom.encloses (selects : inner.SelectsFrom list aliasName outer) :
    outer.Encloses inner := by
  obtain ⟨rest, others, sql, binds⟩ := selects
  refine ⟨⟨"SELECT " ++ list ++ " FROM ", " AS " ++ aliasName ++ rest, ?_⟩, ?_⟩
  · have opening : " FROM (" = " FROM " ++ "(" := rfl
    have closing : ") AS " = ")" ++ " AS " := rfl
    rw [sql, opening, closing]
    simp only [String.append_assoc]
  · rw [binds]
    exact List.prefix_append _ _

theorem Encloses.trans (outside : outer.Encloses middle) (inside : middle.Encloses inner) :
    outer.Encloses inner := by
  obtain ⟨front, back, sql⟩ := outside.sql
  obtain ⟨front', back', sql'⟩ := inside.sql
  refine ⟨⟨front ++ "(" ++ front', back' ++ ")" ++ back, ?_⟩, inside.binds.trans outside.binds⟩
  rw [sql, sql']
  simp only [String.append_assoc]

end Statement

/-- The slot is the column that a selected one is outside, under the alias of the derived table. -/
def Slot.ShowsOutput (aliasName : String) (selected : QualifiedColumn) (slot : Slot) : Prop :=
  ∃ column : QualifiedColumn, slot = .column column ∧
    column.column.name = selected.column.name ∧ column.column.field = selected.column.field ∧
    column.column.type = selected.column.type ∧
    slot.sql = aliasName ++ "." ++ selected.column.name

namespace Query

variable {query inner outer : Query} {dialect : Dialect} {plan : SelectPlan} {aliasName : String}

/-- The outer query is built, call by call, over the rows of the inner one. -/
def Underlies (inner : Query) (aliasName : String) (outer : Query) : Prop :=
  ∃ start steps, Query.ofQuery inner aliasName = .ok start ∧ BuildStep.run steps start = .ok outer

/-- What the inner query selects is what the derived table of the outer one has. -/
theorem Underlies.exists_source (under : inner.Underlies aliasName outer) :
    ∃ slots, inner.layout = .ok slots ∧
      outer.source = .derived
        { table := derivedTable aliasName (slots.filterMap Slot.column?) } inner := by
  obtain ⟨start, steps, derived, ran⟩ := under
  obtain ⟨slots, laid⟩ : ∃ slots, inner.layout = .ok slots := by
    unfold Query.ofQuery at derived
    split at derived
    next => cases derived
    next =>
      obtain ⟨columns, selected, -⟩ := Attempt.map_eq_ok.1 derived
      obtain ⟨slots, laid, -⟩ := Attempt.map_eq_ok.1 selected
      exact ⟨slots, laid⟩
  refine ⟨slots, laid, ?_⟩
  rw [(BuildStep.run_keeps ran).1, Query.ofQuery_eq_ok laid derived]

theorem columns_derivedTable (aliasName : String) (columns : List QualifiedColumn) :
    (derivedTable aliasName columns).columns = columns.map QualifiedColumn.output := rfl

/-- Without a SELECT list of its own the outer query shows the outputs of the inner one. -/
theorem Underlies.layout (under : inner.Underlies aliasName outer) {slots : List Slot}
    (laid : inner.layout = .ok slots) (unlisted : outer.selection = []) :
    ∃ shown, outer.layout = .ok shown ∧
      List.Forall₂ (Slot.ShowsOutput aliasName) (slots.filterMap Slot.column?) shown := by
  obtain ⟨slots', laid', reads⟩ := under.exists_source
  cases laid.symm.trans laid'
  refine ⟨outer.primary.columns.map .column, ?_, ?_⟩
  · unfold Query.layout
    rw [unlisted]
  · unfold primary
    rw [reads, Source.ref, TableRef.columns, columns_derivedTable, List.map_map, List.map_map,
      List.forall₂_map_right_iff]
    exact List.forall₂_same.2 fun selected _ => ⟨_, rfl, rfl, rfl, rfl, rfl⟩

/-- A query over the rows of another one compiles only together with it. -/
theorem Underlies.selectsFrom (under : inner.Underlies aliasName outer)
    (planned : outer.selectPlan dialect = .ok plan) :
    ∃ rows, inner.selectPlan dialect = .ok rows ∧
      rows.statement.SelectsFrom (outer.selectList plan.layout) aliasName plan.statement := by
  obtain ⟨slots, -, reads⟩ := under.exists_source
  obtain ⟨-, source, behind, started, written⟩ := selectPlan_origin planned
  have own : outer.source.query? = some inner := by rw [reads]; rfl
  obtain ⟨rows, selected, rfl⟩ := Source.compile_of_query? own started
  have sql := congrArg Fragment.sql written
  have binds := congrArg Fragment.binds written
  rw [reads] at sql
  refine ⟨rows, selected, behind.sql, behind.binds, ?_, ?_⟩
  · have opening : " FROM (" = " FROM " ++ "(" := rfl
    have closing : ") AS " = ")" ++ " AS " := rfl
    rw [opening, closing]
    simpa only [parenthesized, derivedTable, Source.ref, Statement.sql_fragment,
      Fragment.sql_append, Fragment.sql_text, String.append_assoc] using sql
  · simpa only [parenthesized, Statement.binds_fragment, Fragment.binds_append,
      Fragment.binds_text, List.nil_append, List.append_nil] using binds

/-- One query is built over the other through derived tables, one or more of them. -/
def LiesBelow : Query → Query → Prop :=
  Relation.TransGen fun inner outer => ∃ aliasName, inner.Underlies aliasName outer

/-- One query is built over the other through derived tables, and no SELECT list is given on the
way. -/
def PassesOn : Query → Query → Prop :=
  Relation.TransGen fun inner outer =>
    outer.selection = [] ∧ ∃ aliasName, inner.Underlies aliasName outer

theorem LiesBelow.encloses (below : inner.LiesBelow outer)
    (planned : outer.selectPlan dialect = .ok plan) :
    ∃ rows, inner.selectPlan dialect = .ok rows ∧
      plan.statement.Encloses rows.statement := by
  induction below generalizing plan with
  | single under =>
    obtain ⟨aliasName, under⟩ := under
    obtain ⟨rows, selected, selects⟩ := under.selectsFrom planned
    exact ⟨rows, selected, selects.encloses⟩
  | tail _ under ih =>
    obtain ⟨aliasName, under⟩ := under
    obtain ⟨middle, selected, selects⟩ := under.selectsFrom planned
    obtain ⟨rows, innermost, encloses⟩ := ih selected
    exact ⟨rows, innermost, selects.encloses.trans encloses⟩

theorem Underlies.label_primary (under : inner.Underlies aliasName outer) :
    outer.primary.label = aliasName := by
  obtain ⟨slots, -, reads⟩ := under.exists_source
  unfold primary
  rw [reads]
  rfl

/-- What shows the outputs of columns that show those of others shows the outputs of these. -/
theorem showsOutput_trans {columns : List QualifiedColumn} {between shown : List Slot}
    {first last : String} (inside : List.Forall₂ (Slot.ShowsOutput first) columns between)
    (outside : List.Forall₂ (Slot.ShowsOutput last) (between.filterMap Slot.column?) shown) :
    List.Forall₂ (Slot.ShowsOutput last) columns shown := by
  induction inside generalizing shown with
  | nil => exact outside
  | cons here _ ih =>
    obtain ⟨own, rfl, name, field, type, -⟩ := here
    rw [List.filterMap_cons_some (f := Slot.column?) rfl] at outside
    cases outside with
    | cons there later =>
      obtain ⟨column, rfl, name', field', type', sql⟩ := there
      refine .cons ⟨column, rfl, name'.trans name, field'.trans field, type'.trans type, ?_⟩
        (ih later)
      rw [sql, name]

theorem PassesOn.layout (passes : inner.PassesOn outer) {slots : List Slot}
    (laid : inner.layout = .ok slots) :
    ∃ shown, outer.layout = .ok shown ∧
      List.Forall₂ (Slot.ShowsOutput outer.primary.label) (slots.filterMap Slot.column?) shown := by
  induction passes with
  | single under =>
    obtain ⟨unlisted, aliasName, under⟩ := under
    rw [under.label_primary]
    exact under.layout laid unlisted
  | tail _ under ih =>
    obtain ⟨unlisted, aliasName, under⟩ := under
    obtain ⟨between, laidBetween, inside⟩ := ih
    obtain ⟨shown, laidOut, outside⟩ := under.layout laidBetween unlisted
    rw [under.label_primary]
    exact ⟨shown, laidOut, showsOutput_trans inside outside⟩

end Query

/-- Each SELECT lists its layout. A derived table has a column for each column of the layout below
it, and its rows are those of the SELECT below, whose text and parameters it takes over; and so it
goes on through all levels of derived tables. -/
theorem rows_described_alike (dialect : Dialect) :
    (∀ (query : Query) plan, query.selectPlan dialect = .ok plan →
      query.layout = .ok plan.layout ∧
      ∃ rest, plan.statement.sql =
        "SELECT " ++ (if query.isDistinct then "DISTINCT " else "") ++
          ", ".intercalate (plan.layout.map Slot.sql) ++ " FROM " ++ rest) ∧
    (∀ (inner outer : Query) aliasName, inner.Underlies aliasName outer →
      ∃ slots, inner.layout = .ok slots ∧
        (outer.selection = [] → ∃ shown, outer.layout = .ok shown ∧
          List.Forall₂ (Slot.ShowsOutput aliasName) (slots.filterMap Slot.column?) shown) ∧
        ∀ plan, outer.selectPlan dialect = .ok plan → ∃ rows,
          inner.selectPlan dialect = .ok rows ∧
          rows.statement.SelectsFrom (outer.selectList plan.layout) aliasName plan.statement) ∧
    (∀ inner outer : Query, inner.PassesOn outer → ∀ slots, inner.layout = .ok slots →
      ∃ shown, outer.layout = .ok shown ∧
        List.Forall₂ (Slot.ShowsOutput outer.primary.label) (slots.filterMap Slot.column?) shown) ∧
    ∀ inner outer : Query, inner.LiesBelow outer → ∀ plan, outer.selectPlan dialect = .ok plan →
      ∃ rows, inner.selectPlan dialect = .ok rows ∧ plan.statement.Encloses rows.statement := by
  refine ⟨?_, ?_, fun _ _ passes _ laid => passes.layout laid,
    fun _ _ below _ planned => below.encloses planned⟩
  · intro query plan planned
    obtain ⟨laid, source, behind, -, written⟩ := Query.selectPlan_origin planned
    refine ⟨laid, source.sql ++ behind.sql, (congrArg Fragment.sql written).trans ?_⟩
    rw [Query.selectList]
    simp only [Fragment.sql_append, Fragment.sql_text, String.append_assoc]
  · intro inner outer aliasName under
    obtain ⟨slots, laid, -⟩ := under.exists_source
    exact ⟨slots, laid, under.layout laid, fun _ planned => under.selectsFrom planned⟩

/-- The later reviews, with an expression between their columns. -/
def laterReviews : Query :=
  { schema := readingSchema
    source := .table { table := readingSchema.tables.getD 0 default, aliasName := some "r" }
    filters := [.compare (.named "id") .greater (7 : Int64)]
    selection := [.column (.named "book_id"), .raw "COUNT(*)", .column (.named "r.id")] }

/-- A query over what another one selects, which are integers of these names. -/
def overColumns (inner : Query) (aliasName : String) (names : List String) : Query :=
  let column (name : String) : Column := { name, type := .integer }
  { schema := readingSchema
    source := .derived { table := { name := aliasName, columns := names.map column } } inner }

/-- Those of one book. -/
def bookReviews : Query :=
  (overColumns laterReviews "d" ["book_id", "id"]).filter
    (.compare (.named "book_id") .equal (3 : Int64))

theorem rows_described_alike_reviews :
    laterReviews.Underlies "d" bookReviews ∧
    bookReviews.Underlies "e" (overColumns bookReviews "e" ["book_id", "id"]) ∧
    (∃ shown, (overColumns bookReviews "e" ["book_id", "id"]).layout = .ok shown ∧
      shown.map Slot.sql = ["e.book_id", "e.id"]) ∧
    ∃ plan rows,
      (overColumns bookReviews "e" ["book_id", "id"]).selectPlan .sqlite = .ok plan ∧
      laterReviews.selectPlan .sqlite = .ok rows ∧ plan.statement.Encloses rows.statement ∧
      (plan.statement.binds.map Bind.datum) = [.int 7, .int 3] := by
  have inside : laterReviews.Underlies "d" bookReviews :=
    ⟨_, [.filter (.compare (.named "book_id") .equal (3 : Int64))], rfl, rfl⟩
  have outside : bookReviews.Underlies "e" (overColumns bookReviews "e" ["book_id", "id"]) :=
    ⟨_, [], rfl, rfl⟩
  obtain ⟨-, -, passes, encloses⟩ := rows_described_alike .sqlite
  obtain ⟨shown, laid, same⟩ := passes laterReviews _
    (.tail (.single ⟨rfl, _, inside⟩) ⟨rfl, _, outside⟩) _ rfl
  obtain ⟨rows, planned, whole⟩ := encloses laterReviews _
    (.tail (.single ⟨_, inside⟩) ⟨_, outside⟩) _ rfl
  refine ⟨inside, outside, ⟨shown, laid, ?_⟩, _, rows, rfl, planned, whole, rfl⟩
  cases Except.ok.inj laid
  rfl

end PreparedSql
