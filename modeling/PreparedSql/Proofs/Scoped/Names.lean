import PreparedSql.Proofs.Counted
import PreparedSql.Proofs.Lookup
import PreparedSql.Proofs.Nested.Within
import PreparedSql.Proofs.Scoped.Tables

/-! Which tables the names in a query refer to. Names are looked up among sources of their own, not
in the FROM clause; where all joins follow relations, both come to the same tables. -/

namespace PreparedSql

def SelectEntry.spec? : SelectEntry → Option ColumnSpec
  | .column spec => some spec
  | _ => none

def OrderTarget.spec? : OrderTarget → Option ColumnSpec
  | .column spec => some spec
  | .raw _ => none

/-- The column that a test is about. -/
def Test.spec? : Test → Option ColumnSpec
  | .compareValue spec _ _ | .compareRaw spec _ _ | .compareQuery spec _ _ | .inList spec _ _
  | .inQuery spec _ _ => some spec
  | .raw _ => none

namespace Predicate

mutual

/-- The tests that no predicate around them looks up on a table of its own. -/
def openTests : Predicate → List Test
  | .leaf settings test => if settings.table.isNone then [test] else []
  | .node settings _ children => if settings.table.isNone then openTestsOfAll children else []

def openTestsOfAll : List Predicate → List Test
  | [] => []
  | child :: children => child.openTests ++ openTestsOfAll children

end

mutual

theorem mem_tests_of_open {test : Test} : (predicate : Predicate) →
    test ∈ predicate.openTests → test ∈ predicate.tests
  | .leaf settings own, member => by
      unfold openTests at member
      split at member
      next => exact member
      next => cases member
  | .node settings connective children, member => by
      unfold openTests at member
      split at member
      next => exact mem_testsOfAll_of_open children member
      next => cases member

theorem mem_testsOfAll_of_open {test : Test} : (children : List Predicate) →
    test ∈ openTestsOfAll children → test ∈ testsOfAll children
  | [], member => nomatch member
  | child :: children, member => by
      rcases List.mem_append.1 member with here | later
      · exact List.mem_append_left _ (child.mem_tests_of_open here)
      · exact List.mem_append_right _ (mem_testsOfAll_of_open children later)

end

end Predicate

/-- Both look names up alike. -/
def Scope.Alike (scope other : Scope) : Prop :=
  scope.table = other.table ∧ scope.sources = other.sources

theorem Scope.Alike.resolve_eq {scope other : Scope} (alike : scope.Alike other)
    (spec : ColumnSpec) : scope.resolve spec = other.resolve spec := by
  unfold Scope.resolve
  rw [alike.1, alike.2]

/-- A predicate without a table of its own looks names up as those around it do. -/
theorem Scope.enter_alike {scope : Scope} {settings : NodeSettings}
    (plain : settings.table.isNone = true) : (scope.enter settings).Alike scope := by
  rw [Option.isNone_iff_eq_none] at plain
  refine ⟨?_, rfl⟩
  unfold Scope.enter
  rw [plain]
  rfl

variable {dialect : Dialect}

namespace Predicate

mutual

/-- Where a predicate compiles, its open tests do in a scope that looks names up like its own. -/
theorem compile_openTests {scope : Scope} {fragment : Fragment} : (predicate : Predicate) →
    predicate.compile dialect scope = .ok fragment →
    ∀ test ∈ predicate.openTests, ∃ inner written,
      Scope.Alike inner scope ∧ test.compile dialect inner = .ok written
  | .leaf settings own, compiled => by
      intro test member
      unfold openTests at member
      split at member
      next plain =>
        cases List.mem_singleton.1 member
        exact ⟨_, _, Scope.enter_alike plain, compiled⟩
      next => cases member
  | .node settings connective children, compiled => by
      obtain ⟨pieces, ran, -⟩ := Attempt.bind_eq_ok.1 compiled
      intro test member
      unfold openTests at member
      split at member
      next plain =>
        obtain ⟨inner, written, alike, done⟩ := compileAll_openTests children ran test member
        have around : (scope.enter settings).Alike scope := Scope.enter_alike plain
        exact ⟨inner, written, ⟨alike.1.trans around.1, alike.2.trans around.2⟩, done⟩
      next => cases member

theorem compileAll_openTests {scope : Scope} {pieces : List Fragment} :
    (children : List Predicate) → compileAll dialect scope children = .ok pieces →
    ∀ test ∈ openTestsOfAll children, ∃ inner written,
      Scope.Alike inner scope ∧ test.compile dialect inner = .ok written
  | [], _ => nofun
  | child :: children, compiled => by
      obtain ⟨first, ran, rest⟩ := Attempt.bind_eq_ok.1 compiled
      obtain ⟨others, ranOthers, -⟩ := Attempt.bind_eq_ok.1 rest
      intro test member
      rcases List.mem_append.1 member with here | later
      · exact child.compile_openTests ran test here
      · exact compileAll_openTests children ranOthers test later

end

end Predicate

/-- The column of a test that compiles is found. -/
theorem Test.exists_column_of_compile {scope : Scope} {test : Test} {spec : ColumnSpec}
    {fragment : Fragment} (about : test.spec? = some spec)
    (compiled : test.compile dialect scope = .ok fragment) :
    ∃ column, scope.resolve spec = .ok column := by
  cases test with
  | raw sql => cases about
  | compareValue | compareRaw | compareQuery | inList | inQuery =>
    cases about
    obtain ⟨column, found, -⟩ := Attempt.bind_eq_ok.1 compiled
    exact ⟨column, found⟩

theorem Predicate.conjunction_columns {scope : Scope} {predicates : List Predicate}
    {condition : Option Fragment}
    (written : conjunction predicates (compileAll dialect scope predicates) = .ok condition) :
    ∀ spec ∈ (openTestsOfAll predicates).filterMap Test.spec?,
      ∃ column, scope.resolve spec = .ok column := by
  intro spec member
  obtain ⟨test, inside, about⟩ := List.mem_filterMap.1 member
  unfold conjunction at written
  split at written
  next empty =>
    have none := mem_testsOfAll_of_open predicates inside
    rw [(allEmpty_iff predicates).1 empty] at none
    cases none
  next =>
    obtain ⟨pieces, ran, -⟩ := Attempt.map_eq_ok.1 written
    obtain ⟨inner, written, alike, compiled⟩ := compileAll_openTests predicates ran test inside
    rw [← alike.resolve_eq]
    exact Test.exists_column_of_compile about compiled

namespace Query

variable {query : Query}

/-- The columns of SELECT, WHERE, GROUP BY and HAVING, except below predicates that have a table
of their own, and inside other queries. -/
def bodyColumns (query : Query) : List ColumnSpec :=
  query.selection.filterMap SelectEntry.spec? ++
    (Predicate.openTestsOfAll query.filters).filterMap Test.spec? ++ query.grouping ++
    (Predicate.openTestsOfAll query.havings).filterMap Test.spec?

def orderColumns (query : Query) : List ColumnSpec :=
  query.ordering.filterMap fun entry => entry.target.spec?

/-- The columns of a SELECT list that is laid out are found. -/
theorem exists_column_of_layout {layout : List Slot} (laid : query.layout = .ok layout) :
    ∀ spec ∈ query.selection.filterMap SelectEntry.spec?,
      ∃ column, query.resolve spec = .ok column := by
  intro spec member
  obtain ⟨entry, inside, own⟩ := List.mem_filterMap.1 member
  unfold Query.layout at laid
  split at laid
  next empty =>
    rw [empty] at inside
    cases inside
  next =>
    obtain ⟨lists, ran, -⟩ := Attempt.map_eq_ok.1 laid
    obtain ⟨slots, found⟩ := Attempt.exists_mapM_iff.1 ⟨lists, ran⟩ entry inside
    cases entry with
    | column other =>
      cases own
      obtain ⟨column, resolved, -⟩ := Attempt.map_eq_ok.1 found
      exact ⟨column, resolved⟩
    | all | raw => cases own

/-- The columns of a GROUP BY that is written are found. -/
theorem exists_column_of_group {grouping : String} (written : query.groupClause = .ok grouping) :
    ∀ spec ∈ query.grouping, ∃ column, query.resolve spec = .ok column := by
  unfold groupClause at written
  split at written
  next empty =>
    rw [empty]
    nofun
  next =>
    obtain ⟨columns, ran, -⟩ := Attempt.map_eq_ok.1 written
    exact Attempt.exists_mapM_iff.1 ⟨columns, ran⟩

/-- The columns of an ORDER BY that is written are found. -/
theorem exists_column_of_order {ordering : String}
    (written : query.orderClause dialect = .ok ordering) :
    ∀ spec ∈ query.orderColumns, ∃ column, query.resolve spec = .ok column := by
  intro spec member
  obtain ⟨⟨target, direction⟩, inside, own⟩ := List.mem_filterMap.1 member
  unfold orderClause at written
  split at written
  next empty =>
    rw [empty] at inside
    cases inside
  next =>
    obtain ⟨keys, ran, -⟩ := Attempt.bind_eq_ok.1 written
    obtain ⟨key, found⟩ := Attempt.exists_mapM_iff.1 ⟨keys, ran⟩ _ inside
    cases target with
    | column other =>
      cases own
      obtain ⟨sql, sorted, -⟩ := Attempt.map_eq_ok.1 found
      obtain ⟨column, resolved, -⟩ := Attempt.map_eq_ok.1 sorted
      exact ⟨column, resolved⟩
    | raw sql => cases own

/-- All columns of a body that compiles are found. -/
theorem exists_column_of_body {body : Body} (compiled : query.body dialect = .ok body) :
    ∀ spec ∈ query.bodyColumns, ∃ column, query.resolve spec = .ok column := by
  obtain ⟨-, -, filter, grouping, having, -, -, filtered, grouped, held, slots, -⟩ :=
    body_parts compiled
  intro spec member
  unfold bodyColumns at member
  simp only [List.mem_append, or_assoc] at member
  rcases member with selected | condition | group | condition
  · exact exists_column_of_layout slots spec selected
  · exact Predicate.conjunction_columns filtered spec condition
  · exact exists_column_of_group grouped spec group
  · exact Predicate.conjunction_columns held spec condition

end Query

namespace Query

variable {query : Query}

/-- What a name in a clause is resolved to belongs to a table that is joined. -/
theorem mem_joinedTables_of_resolve (related : RelationJoins query.primary query.joins)
    {name : String} {column : QualifiedColumn}
    (found : query.resolve (.named name) = .ok column) : column.table ∈ query.joinedTables := by
  obtain ⟨ref, among, _, looked⟩ := ColumnSpec.exists_column_of_resolve found
  rw [(TableRef.column_eq_ok looked).1]
  rcases List.mem_append.1 among with source | primary
  · exact mem_joinedTables_of_addSources related (List.Subset.refl _) source
  · rw [List.mem_singleton.1 primary]
    exact List.mem_cons_self

end Query

/-- After any calls on a table that join others along relations only, and that give all of them keys
of their own, FROM introduces each table once; no JOIN clause refers to a table that is introduced
behind it, and neither the conditions in WHERE nor the names in a clause to one that is not. -/
theorem relations_well_scoped {schema : Schema} {name : String} {aliasName : Option String}
    {start query : Query} {steps : List BuildStep}
    (began : Query.ofTable schema name aliasName = .ok start)
    (byRelation : ∀ step ∈ steps, step.joinsByRelation = true)
    (ran : BuildStep.run steps start = .ok query)
    (apart : (query.joinedTables.map TableRef.key).Nodup) :
    query.introduced.Perm query.joinedTables ∧
    (∀ place join, query.explicitJoins[place]? = some join →
      ∀ pair ∈ join.pairs, ∀ column ∈ [pair.left, pair.right],
        column.table ∈ (query.primary :: query.listedTables) ++
          (query.explicitJoins.take (place + 1)).map Join.rightTable) ∧
    (∀ entry ∈ query.joins, ∀ pair ∈ entry.join.pairs, ∀ column ∈ [pair.left, pair.right],
      column.table ∈ query.introduced) ∧
    (∀ dialect plan, query.selectPlan dialect = .ok plan →
      (∃ clauses, query.HasClauses dialect clauses ∧ plan.statement.sql = clauses.sql ∧
        clauses.origin = query.tableList dialect ∧
        List.Forall₂ (Join.Introduces dialect) query.explicitJoins (query.joinClauses dialect)) ∧
      ∀ name, .named name ∈ query.bodyColumns ++ query.orderColumns →
        ∃ column, query.resolve (.named name) = .ok column ∧ column.table ∈ query.introduced) ∧
    (∀ dialect counted, query.countPlan dialect = .ok counted →
      (¬ query.ActsOnRows → ∃ condition,
        counted.sql = "SELECT COUNT(*) FROM " ++ query.tableList dialect ++
          SelectClauses.optional " WHERE " condition) ∧
      (query.ActsOnRows → ∃ plan, query.selectPlan dialect = .ok plan ∧
        counted.sql = "SELECT COUNT(*) FROM (" ++ plan.statement.sql ++ ") AS count_subquery") ∧
      ∀ name, .named name ∈ query.bodyColumns →
        ∃ column, query.resolve (.named name) = .ok column ∧
          column.table ∈ query.introduced) := by
  have reads : ∃ ref, query.source = .table ref := by
    obtain ⟨ref, -, rfl⟩ := Attempt.map_eq_ok.1 began
    exact ⟨ref, (BuildStep.run_keeps ran).1⟩
  have related : RelationJoins query.primary query.joins := by
    refine BuildStep.run_related byRelation ?_ ran
    obtain ⟨ref, -, rfl⟩ := Attempt.map_eq_ok.1 began
    exact .nil ref
  have perm := Query.introduced_perm apart related
  have found {name : String} (resolves : ∃ column, query.resolve (.named name) = .ok column) :
      ∃ column, query.resolve (.named name) = .ok column ∧ column.table ∈ query.introduced := by
    obtain ⟨column, resolved⟩ := resolves
    exact ⟨column, resolved, perm.mem_iff.2 (Query.mem_joinedTables_of_resolve related resolved)⟩
  obtain ⟨ref, reads⟩ := reads
  refine ⟨perm, fun place join => Query.mem_introduced_before apart related,
    fun entry => Query.mem_introduced_of_pairs apart related, ?_, ?_⟩
  · intro dialect plan planned
    obtain ⟨clauses, has, sql, origin⟩ := Query.selectPlan_clauses_of_table reads planned
    obtain ⟨body, compiled, -⟩ := Attempt.bind_eq_ok.1 planned
    refine ⟨⟨clauses, has, sql, origin, query.forall₂_joinClauses dialect⟩, ?_⟩
    intro name member
    rcases List.mem_append.1 member with own | order
    · exact found (Query.exists_column_of_body compiled _ own)
    · exact found (Query.exists_column_of_order has.ordering _ order)
  · intro dialect counted done
    refine ⟨fun plain => Query.countPlan_sql_of_not_acts reads plain done, ?_, ?_⟩
    · intro acts
      rw [Query.countPlan_of_acts acts] at done
      obtain ⟨plan, planned, rfl⟩ := Attempt.map_eq_ok.1 done
      exact ⟨plan, planned, rfl⟩
    · intro name member
      obtain ⟨body, compiled, -⟩ := Attempt.bind_eq_ok.1 done
      exact found (Query.exists_column_of_body compiled _ member)

/-- Joins of all kinds, among which an implicit one continues a left one. -/
def mentorSteps : List BuildStep :=
  [.joinRelation "Book" .implicit none, .joinRelation "Book.Author" .inner none,
    .joinRelation "Book.Editor" .left (some "editor"),
    .joinRelation "Book.Editor.Mentor" .implicit (some "guide"),
    .joinRelation "Book.Author.Mentor" .right (some "mentor"),
    .filter (.any [.compare (.named "mentor.id") .greater (7 : Int64),
      .isNull (.named "book_id")]),
    .orderBy (.named "guide.id") .descending]

/-- What these calls make of the reviews. -/
def mentorQuery : Query :=
  let tableAt (place : Nat) (aliasName : Option String) : TableRef :=
    { table := readingSchema.tables.getD place default, aliasName }
  let column (name : String) : Column := { name, type := .integer }
  let join (kind : JoinKind) (left right : TableRef) (own : String) : Join :=
    { kind
      first := ⟨⟨left, column own⟩, ⟨right, { column "id" with primaryKey := true }⟩⟩ }
  let review := tableAt 0 (some "r")
  let book := tableAt 1 none
  let author := tableAt 2 none
  let editor := tableAt 2 (some "editor")
  { schema := readingSchema
    source := .table review
    filters := [.any [.compare (.named "mentor.id") .greater (7 : Int64),
      .isNull (.named "book_id")]]
    joins :=
      [⟨join .implicit review book "book_id", some ⟨"Book", none⟩⟩,
       ⟨join .inner book author "author_id", some ⟨"Author", some 0⟩⟩,
       ⟨join .left book editor "editor_id", some ⟨"Editor", some 0⟩⟩,
       ⟨join .implicit editor (tableAt 2 (some "guide")) "mentor_id", some ⟨"Mentor", some 2⟩⟩,
       ⟨join .right author (tableAt 2 (some "mentor")) "mentor_id", some ⟨"Mentor", some 1⟩⟩]
    ordering := [⟨.column (.named "guide.id"), .descending⟩] }

theorem relations_well_scoped_mentors :
    ∃ start plan, Query.ofTable readingSchema "review" (some "r") = .ok start ∧
      (∀ step ∈ mentorSteps, step.joinsByRelation = true) ∧
      BuildStep.run mentorSteps start = .ok mentorQuery ∧
      (mentorQuery.joinedTables.map TableRef.key).Nodup ∧
      mentorQuery.selectPlan .mysql = .ok plan ∧
      mentorQuery.introduced.Perm mentorQuery.joinedTables ∧
      mentorQuery.listedTables.map TableRef.label = ["book", "guide"] ∧
      mentorQuery.explicitJoins.map (·.rightTable.label) = ["person", "editor", "mentor"] ∧
      ∀ name ∈ ["mentor.id", "book_id", "guide.id"],
        ∃ column, mentorQuery.resolve (.named name) = .ok column ∧
          column.table ∈ mentorQuery.introduced := by
  have byRelation : ∀ step ∈ mentorSteps, step.joinsByRelation = true := by decide
  have apart : (mentorQuery.joinedTables.map TableRef.key).Nodup := by decide
  obtain ⟨perm, -, -, planned, -⟩ := @relations_well_scoped readingSchema "review" (some "r") _
    mentorQuery mentorSteps rfl byRelation rfl apart
  obtain ⟨-, names⟩ := planned .mysql _ rfl
  have columns : mentorQuery.bodyColumns ++ mentorQuery.orderColumns =
      ["mentor.id", "book_id", "guide.id"].map .named := rfl
  refine ⟨_, _, rfl, byRelation, rfl, apart, rfl, perm, rfl, rfl, ?_⟩
  intro name member
  refine names name ?_
  rw [columns]
  exact List.mem_map_of_mem member

end PreparedSql
