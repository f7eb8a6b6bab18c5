import PreparedSql.Dialect.Standard
import PreparedSql.Proofs.Chain.PrefixTree
import PreparedSql.Proofs.SelectClauses

/-! Which tables the FROM clause of a SELECT introduces, and when it introduces each of them once.
Implicit joins never repeat a table, and no join repeats the primary source; but every explicit
join brings its right table along, whether another one has done so or not. -/

namespace PreparedSql

theorem prefix_addSources (sources refs : List TableRef) : sources <+: addSources sources refs := by
  unfold addSources
  induction refs generalizing sources with
  | nil => exact List.prefix_refl sources
  | cons ref refs ih =>
    have first : sources <+: addSource sources ref := by
      unfold addSource
      split
      next => exact List.prefix_refl sources
      next => exact List.prefix_append sources [ref]
    exact first.trans (ih (addSource sources ref))

theorem key_mem_addSources (sources : List TableRef) {refs : List TableRef} {ref : TableRef}
    (member : ref ∈ refs) : ref.key ∈ (addSources sources refs).map TableRef.key := by
  induction refs generalizing sources with
  | nil => cases member
  | cons first rest ih =>
    rcases List.mem_cons.1 member with rfl | later
    · have kept := (prefix_addSources (addSource sources ref) rest).map TableRef.key
      exact kept.subset (key_mem_addSource sources ref)
    · exact ih (addSource sources first) later

/-- The JOIN clause by which a join introduces its right table. -/
def Join.Introduces (dialect : Dialect) (join : Join) (clause : String) : Prop :=
  ∃ keyword, join.kind.keyword? = some keyword ∧
    clause = keyword ++ " " ++ join.rightTable.fromSql ++
      " ON (" ++ join.condition dialect false ++ ")"

namespace Query

/-- The primary source, the tables listed behind it, and the right tables of the JOIN clauses. -/
def introduced (query : Query) : List TableRef :=
  (query.primary :: query.listedTables) ++ query.explicitJoins.map Join.rightTable

variable {query : Query} {dialect : Dialect} {plan : SelectPlan}

/-- Each explicit join has its clause, in the order of the joins. -/
theorem forall₂_joinClauses (query : Query) (dialect : Dialect) :
    List.Forall₂ (Join.Introduces dialect) query.explicitJoins (query.joinClauses dialect) := by
  unfold explicitJoins joinClauses
  induction query.joins with
  | nil => exact .nil
  | cons entry entries ih =>
    obtain ⟨⟨kind, first, more⟩, hop⟩ := entry
    cases kind with
    | implicit => exact ih
    | inner => exact .cons ⟨_, rfl, rfl⟩ ih
    | left => exact .cons ⟨_, rfl, rfl⟩ ih
    | right => exact .cons ⟨_, rfl, rfl⟩ ih

/-- The sources in the comma list have keys of their own. -/
theorem nodup_listed (query : Query) :
    ((query.primary :: query.listedTables).map TableRef.key).Nodup := by
  have distinct : ((addSources [query.primary] query.implicitTables).map TableRef.key).Nodup :=
    nodup_addSources _ (by simp)
  obtain ⟨others, whole⟩ := prefix_addSources [query.primary] query.implicitTables
  have listed : (query.primary :: query.listedTables).Sublist
      (addSources [query.primary] query.implicitTables) := by
    unfold listedTables
    rw [← whole]
    exact List.filter_sublist.cons_cons query.primary
  exact distinct.sublist (listed.map TableRef.key)

/-- What is listed is not joined, and neither is the primary source of a query that compiles. -/
theorem not_joined (unjoined : query.joinedPrimary? = none) {ref : TableRef}
    (member : ref ∈ query.primary :: query.listedTables) {join : Join}
    (explicit : join ∈ query.explicitJoins) : ref.key ≠ join.rightTable.key := by
  rcases List.mem_cons.1 member with rfl | listed
  · intro same
    have other := List.find?_eq_none.1 unjoined join explicit
    simp [same] at other
  · intro same
    have absent := (List.mem_filter.1 listed).2
    have present : query.isJoined ref.key = true :=
      List.any_eq_true.2 ⟨join, explicit, by simp [same]⟩
    rw [present] at absent
    cases absent

/-- Without the primary source among the explicit joins, a table is introduced twice just when
two explicit joins have it as their right table. -/
theorem nodup_introduced_iff (unjoined : query.joinedPrimary? = none) :
    (query.introduced.map TableRef.key).Nodup ↔
      (query.explicitJoins.map fun join => join.rightTable.key).Nodup := by
  unfold introduced
  rw [List.map_append, List.nodup_append, List.map_map]
  constructor
  · exact fun parts => parts.2.1
  · intro distinct
    refine ⟨query.nodup_listed, distinct, ?_⟩
    intro key listed other joined
    obtain ⟨ref, member, rfl⟩ := List.mem_map.1 listed
    obtain ⟨join, explicit, rfl⟩ := List.mem_map.1 joined
    exact not_joined unjoined member explicit

/-- The FROM clause is the comma list, with the primary source as it is written, and then the JOIN
clauses. -/
theorem fromClause_sql {source joined : Fragment}
    (joining : query.fromClause dialect source = .ok joined) :
    joined.sql = ", ".intercalate (source.sql :: query.listedTables.map TableRef.fromSql) ++
      String.join ((query.joinClauses dialect).map (" " ++ ·)) := by
  unfold fromClause at joining
  split at joining
  next => cases joining
  next =>
    cases joining
    rw [Fragment.sql_append, Fragment.sql_join, Fragment.sql_text, List.map_cons, List.map_map]
    rfl

/-- The FROM clause where no derived table is read: the listed tables by their names, with commas
between them, and then the JOIN clauses. -/
def tableList (query : Query) (dialect : Dialect) : String :=
  ", ".intercalate ((query.primary :: query.listedTables).map TableRef.fromSql) ++
    String.join ((query.joinClauses dialect).map (" " ++ ·))

theorem fromClause_sql_of_table {ref : TableRef} (reads : query.source = .table ref)
    {source joined : Fragment} (started : query.source.compile dialect = .ok source)
    (joining : query.fromClause dialect source = .ok joined) :
    joined.sql = query.tableList dialect := by
  have primary : query.primary = ref := congrArg Source.ref reads
  rw [reads] at started
  cases started
  rw [fromClause_sql joining, tableList, primary]
  rfl

/-- The clauses of a SELECT that reads from a table. -/
theorem selectPlan_clauses_of_table {ref : TableRef} (reads : query.source = .table ref)
    (planned : query.selectPlan dialect = .ok plan) :
    ∃ clauses, query.HasClauses dialect clauses ∧ plan.statement.sql = clauses.sql ∧
      clauses.origin = query.tableList dialect := by
  obtain ⟨clauses, -, has, sql, -⟩ := selectPlan_clauses planned
  obtain ⟨source, joined, started, joining, origin⟩ := has.origin
  exact ⟨clauses, has, sql, origin.trans (fromClause_sql_of_table reads started joining)⟩

end Query

/-- The FROM clause of a planned SELECT is the primary source and the listed tables, with commas
between them, and then the JOIN clauses. No table stands twice in it, unless it is the right
table of two explicit joins. -/
theorem introduced_once_iff {query : Query} {dialect : Dialect} {plan : SelectPlan}
    (planned : query.selectPlan dialect = .ok plan) :
    ∃ clauses source joined, query.HasClauses dialect clauses ∧
      plan.statement.sql = clauses.sql ∧ query.source.compile dialect = .ok source ∧
      List.Forall₂ (Join.Introduces dialect) query.explicitJoins joined ∧
      clauses.origin =
        ", ".intercalate (source.sql :: query.listedTables.map TableRef.fromSql) ++
          String.join (joined.map (" " ++ ·)) ∧
      ((query.introduced.map TableRef.key).Nodup ↔
        (query.explicitJoins.map fun join => join.rightTable.key).Nodup) := by
  obtain ⟨clauses, -, has, sql, -⟩ := Query.selectPlan_clauses planned
  obtain ⟨source, introduced, started, joined, origin⟩ := has.origin
  unfold Query.fromClause at joined
  split at joined
  next => cases joined
  next unjoined =>
    cases joined
    refine ⟨clauses, source, query.joinClauses dialect, has, sql, started,
      query.forall₂_joinClauses dialect, ?_, Query.nodup_introduced_iff unjoined⟩
    rw [origin, Fragment.sql_append, Fragment.sql_join, Fragment.sql_text, List.map_cons,
      List.map_map]
    rfl

/-- Books, joined with a person by each of two columns. -/
def staffQuery (author editor : JoinKind) (editorName : Option String) : Query :=
  let tableAt (place : Nat) (aliasName : Option String) : TableRef :=
    { table := readingSchema.tables.getD place default, aliasName }
  let column (name : String) : Column := { name, type := .integer }
  let join (kind : JoinKind) (own : String) (person : TableRef) : Join :=
    { kind
      first := ⟨⟨tableAt 1 none, column own⟩, ⟨person, { column "id" with primaryKey := true }⟩⟩ }
  { schema := readingSchema
    source := .table (tableAt 1 none)
    joins :=
      [⟨join author "author_id" (tableAt 2 none), some ⟨"Author", none⟩⟩,
       ⟨join editor "editor_id" (tableAt 2 editorName), some ⟨"Editor", none⟩⟩] }

/-- The author stands in the comma list, and the editor is another person. -/
theorem introduced_once_iff_staff :
    ∃ start plan, Query.ofTable readingSchema "book" = .ok start ∧
      BuildStep.run [.joinRelation "Author" .implicit none,
          .joinRelation "Editor" .left (some "editor"), .joinRelation "Author" .inner none] start =
        .ok (staffQuery .implicit .left (some "editor")) ∧
      (staffQuery .implicit .left (some "editor")).selectPlan .sqlite = .ok plan ∧
      ((staffQuery .implicit .left (some "editor")).introduced.map TableRef.key).Nodup := by
  obtain ⟨-, -, -, -, -, -, -, -, once⟩ :=
    @introduced_once_iff (staffQuery .implicit .left (some "editor")) .sqlite _ rfl
  exact ⟨_, _, rfl, rfl, rfl, once.2 (by decide)⟩

/-- Both are joined under the name of their table: it is introduced twice. -/
theorem person_introduced_twice :
    ∃ start, Query.ofTable readingSchema "book" = .ok start ∧
      BuildStep.run [.joinRelation "Author" .inner none, .joinRelation "Editor" .left none] start =
        .ok (staffQuery .inner .left none) ∧
      ((staffQuery .inner .left none).selectPlan .sqlite).map (·.statement.sql) =
        .ok ("SELECT book.id, book.author_id, book.editor_id FROM book " ++
          "INNER JOIN person ON (book.author_id=person.id) " ++
          "LEFT JOIN person ON (book.editor_id=person.id)") ∧
      ¬ ((staffQuery .inner .left none).introduced.map TableRef.key).Nodup := by
  exact ⟨_, rfl, rfl, by decide +kernel, by decide⟩

end PreparedSql
