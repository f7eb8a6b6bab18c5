import PreparedSql.Proofs.Attempt
import PreparedSql.Proofs.Fragments
import PreparedSql.Proofs.PredicateTests
import PreparedSql.Proofs.SelectClauses

/-! Queries inside a query, at any depth: as its source, compared with a column, or behind IN.
When a query compiles, each of them has compiled to a SELECT of its own, and this SELECT stands in
the statement as it is, with its parameters. -/

namespace PreparedSql

/-- The query that a test compares its column with. -/
def Test.query? : Test → Option Query
  | .compareQuery _ _ query | .inQuery _ _ query => some query
  | _ => none

/-- The query whose rows a derived table has. -/
def Source.query? : Source → Option Query
  | .table _ => none
  | .derived _ query => some query

namespace Query

/-- The tests of WHERE and HAVING, at any depth below their connectives. -/
def tests (query : Query) : List Test :=
  Predicate.testsOfAll query.filters ++ Predicate.testsOfAll query.havings

/-- The queries that the clauses of a query hold themselves. -/
def innerQueries (query : Query) : List Query :=
  query.source.query?.toList ++ query.tests.filterMap Test.query?

/-- A query is the other one or stands inside it, at any depth. -/
inductive Within (query : Query) : Query → Prop where
  | refl : Within query query
  | inner {child outer : Query} :
      child ∈ outer.innerQueries → Within query child → Within query outer

variable {query child inner : Query} {dialect : Dialect}

theorem mem_innerQueries : child ∈ query.innerQueries ↔
    query.source.query? = some child ∨ ∃ test ∈ query.tests, test.query? = some child := by
  unfold innerQueries
  rw [List.mem_append, Option.mem_toList, List.mem_filterMap]

theorem within_iff : inner.Within query ↔
    inner = query ∨ ∃ child ∈ query.innerQueries, inner.Within child := by
  constructor
  · intro within
    cases within with
    | refl => exact Or.inl rfl
    | inner member below => exact Or.inr ⟨_, member, below⟩
  · rintro (rfl | ⟨child, member, below⟩)
    · exact .refl
    · exact .inner member below

/-- Inside another statement a query is written as its own SELECT. -/
theorem nested_eq_selectPlan (query : Query) (dialect : Dialect) :
    query.nested dialect (query.body dialect) =
      (query.selectPlan dialect).map fun plan => plan.statement.fragment := by
  unfold nested selectPlan
  cases query.body dialect with
  | error reason => rfl
  | ok body =>
    show query.selectWith dialect body = (query.selectWith dialect body >>= _).map _
    cases query.selectWith dialect body <;> rfl

end Query

variable {dialect : Dialect}

section Comparisons

variable {scope : Scope} {spec : ColumnSpec} {query : Query}

/-- The query of a test is written as its own SELECT, whatever the scope. -/
theorem Test.compile_compareQuery {operator : Comparison} :
    (Test.compareQuery spec operator query).compile dialect scope = (do
      let column ← scope.resolve spec
      let plan ← query.selectPlan dialect
      return queryTest column operator.sql plan.statement.fragment) := by
  rw [Test.compile, Query.nested_eq_selectPlan]
  simp only [Attempt.bind_map]

theorem Test.compile_inQuery {operator : Membership} :
    (Test.inQuery spec operator query).compile dialect scope = (do
      let column ← scope.resolve spec
      dialect.checkMembership query.hasLimitOrOffset
      let plan ← query.selectPlan dialect
      return queryTest column operator.sql plan.statement.fragment) := by
  rw [Test.compile, Query.nested_eq_selectPlan]
  simp only [Attempt.bind_map]

end Comparisons

/-- The query in a test that compiles has a plan, whose SELECT stands in the test. -/
theorem Test.contains_of_compile {scope : Scope} {test : Test} {fragment : Fragment}
    {query : Query} (own : test.query? = some query)
    (compiled : test.compile dialect scope = .ok fragment) :
    ∃ plan, query.selectPlan dialect = .ok plan ∧ fragment.Contains plan.statement.fragment := by
  cases test with
  | compareQuery spec operator inner =>
    cases own
    rw [Test.compile_compareQuery] at compiled
    obtain ⟨column, -, rest⟩ := Attempt.bind_eq_ok.1 compiled
    obtain ⟨plan, planned, written⟩ := Attempt.bind_eq_ok.1 rest
    cases Attempt.pure_eq_ok.1 written
    exact ⟨plan, planned, (Fragment.Contains.parenthesized _).append_left _⟩
  | inQuery spec operator inner =>
    cases own
    rw [Test.compile_inQuery] at compiled
    obtain ⟨column, -, rest⟩ := Attempt.bind_eq_ok.1 compiled
    obtain ⟨-, -, rest⟩ := Attempt.bind_eq_ok.1 rest
    obtain ⟨plan, planned, written⟩ := Attempt.bind_eq_ok.1 rest
    cases Attempt.pure_eq_ok.1 written
    exact ⟨plan, planned, (Fragment.Contains.parenthesized _).append_left _⟩
  | compareValue | compareRaw | inList | raw => cases own

/-- A derived table is the SELECT of its rows in parentheses, under its name. -/
theorem Source.compile_of_query? {source : Source} {origin : Fragment} {rows : Query}
    (own : source.query? = some rows) (started : source.compile dialect = .ok origin) :
    ∃ plan, rows.selectPlan dialect = .ok plan ∧
      origin =
        parenthesized plan.statement.fragment ++ .text (" AS " ++ source.ref.table.name) := by
  cases source with
  | table ref => cases own
  | derived ref inner =>
    cases own
    obtain ⟨-, -, rest⟩ := Attempt.bind_eq_ok.1 started
    obtain ⟨nested, ran, written⟩ := Attempt.bind_eq_ok.1 rest
    rw [Query.nested_eq_selectPlan] at ran
    obtain ⟨plan, planned, rfl⟩ := Attempt.map_eq_ok.1 ran
    cases Attempt.pure_eq_ok.1 written
    exact ⟨plan, planned, rfl⟩

namespace Predicate

mutual

/-- Where a predicate compiles, all its tests do, each in some scope, and stand in its text. -/
theorem compile_tests {scope : Scope} {fragment : Fragment} : (predicate : Predicate) →
    predicate.compile dialect scope = .ok fragment →
    ∀ test ∈ predicate.tests, ∃ inner written, test.compile dialect inner = .ok written ∧
      fragment.Contains written
  | .leaf settings test, compiled => by
      intro other member
      cases List.mem_singleton.1 member
      exact ⟨_, fragment, compiled, .refl fragment⟩
  | .node settings connective children, compiled => by
      obtain ⟨pieces, ran, written⟩ := Attempt.bind_eq_ok.1 compiled
      cases Attempt.pure_eq_ok.1 written
      intro test member
      obtain ⟨inner, text, compiles, piece, among, inside⟩ :=
        compileAll_tests children ran test member
      exact ⟨inner, text, compiles, (Fragment.Contains.combine among connective).trans inside⟩

theorem compileAll_tests {scope : Scope} {pieces : List Fragment} : (children : List Predicate) →
    compileAll dialect scope children = .ok pieces →
    ∀ test ∈ testsOfAll children, ∃ inner written, test.compile dialect inner = .ok written ∧
      ∃ piece ∈ pieces, piece.Contains written
  | [], _ => nofun
  | child :: children, compiled => by
      obtain ⟨first, ran, rest⟩ := Attempt.bind_eq_ok.1 compiled
      obtain ⟨others, ranOthers, done⟩ := Attempt.bind_eq_ok.1 rest
      cases Attempt.pure_eq_ok.1 done
      intro test member
      rcases List.mem_append.1 member with here | later
      · obtain ⟨inner, text, compiles, inside⟩ := child.compile_tests ran test here
        exact ⟨inner, text, compiles, first, List.mem_cons_self, inside⟩
      · obtain ⟨inner, text, compiles, piece, among, inside⟩ :=
          compileAll_tests children ranOthers test later
        exact ⟨inner, text, compiles, piece, List.mem_cons_of_mem first among, inside⟩

end

/-- No test is left out when the AND over a list of predicates is written. -/
theorem conjunction_tests {scope : Scope} {predicates : List Predicate}
    {condition : Option Fragment}
    (written : conjunction predicates (compileAll dialect scope predicates) = .ok condition) :
    ∀ test ∈ testsOfAll predicates, ∃ inner written, test.compile dialect inner = .ok written ∧
      ∃ whole ∈ condition.toList, whole.Contains written := by
  unfold conjunction at written
  split at written
  next empty =>
    rw [(allEmpty_iff predicates).1 empty]
    nofun
  next =>
    obtain ⟨pieces, ran, rfl⟩ := Attempt.map_eq_ok.1 written
    intro test member
    obtain ⟨inner, text, compiles, piece, among, inside⟩ :=
      compileAll_tests predicates ran test member
    exact ⟨inner, text, compiles, _, List.mem_singleton_self _,
      (Fragment.Contains.combine among .and).trans inside⟩

end Predicate

namespace Query

variable {query inner : Query}

/-- A SELECT is its list, the body, and what is known without parameters. -/
theorem selectPlan_written {plan : SelectPlan} (planned : query.selectPlan dialect = .ok plan) :
    ∃ body rest, query.body dialect = .ok body ∧ plan.layout = body.layout ∧
      plan.statement.fragment =
        .text ("SELECT " ++ query.selectList body.layout) ++ body.clauses ++ .text rest := by
  obtain ⟨body, compiled, rest⟩ := Attempt.bind_eq_ok.1 planned
  obtain ⟨fragment, selected, done⟩ := Attempt.bind_eq_ok.1 rest
  obtain ⟨ordering, -, rest⟩ := Attempt.bind_eq_ok.1 selected
  obtain ⟨limiting, -, written⟩ := Attempt.bind_eq_ok.1 rest
  cases Attempt.pure_eq_ok.1 written
  cases Attempt.pure_eq_ok.1 done
  exact ⟨body, ordering ++ limiting, compiled, rfl, rfl⟩

/-- FROM begins with the primary source, and nothing behind it has parameters. -/
theorem fromClause_origin {origin introduced : Fragment}
    (joined : query.fromClause dialect origin = .ok introduced) :
    ∃ rest, introduced = origin ++ .text rest := by
  unfold fromClause at joined
  split at joined
  next => cases joined
  next =>
    cases joined
    have bare : (query.listedTables.map fun ref => Fragment.text ref.fromSql).flatMap
        Fragment.binds = [] := by
      simp only [List.flatMap_map, Fragment.binds_text, List.flatMap_eq_nil_iff, implies_true]
    cases listed : query.listedTables.map fun ref => Fragment.text ref.fromSql with
    | nil => exact ⟨_, congrArg (· ++ _) (Fragment.join_singleton ", " origin)⟩
    | cons first others =>
      rw [listed] at bare
      refine ⟨", " ++ (Fragment.join ", " (first :: others)).sql ++
        String.join ((query.joinClauses dialect).map (" " ++ ·)), ?_⟩
      rw [Fragment.join_cons_cons]
      apply Fragment.ext
      · simp only [Fragment.sql_append, Fragment.sql_text, String.append_assoc]
      · simp only [Fragment.binds_append, Fragment.binds_text, Fragment.binds_join, bare,
          List.append_nil]

/-- A SELECT is its list, the primary source, and what comes behind. -/
theorem selectPlan_origin {plan : SelectPlan}
    (planned : query.selectPlan dialect = .ok plan) :
    query.layout = .ok plan.layout ∧
    ∃ source behind, query.source.compile dialect = .ok source ∧
      plan.statement.fragment =
        .text ("SELECT " ++ query.selectList plan.layout ++ " FROM ") ++ source ++ behind := by
  obtain ⟨body, rest, compiled, layout, written⟩ := selectPlan_written planned
  obtain ⟨source, introduced, filter, grouping, having, started, joined, -, -, -, laid, clauses,
    -⟩ := body_parts compiled
  obtain ⟨more, rfl⟩ := fromClause_origin joined
  rw [layout]
  refine ⟨laid, source, .text more ++
    conditionClause " WHERE " ((query.implicitConditions dialect).map .text ++ filter.toList) ++
    .text grouping ++ conditionClause " HAVING " having.toList ++ .text rest, started, ?_⟩
  have list : Fragment.text ("SELECT " ++ query.selectList body.layout ++ " FROM ") =
      .text ("SELECT " ++ query.selectList body.layout) ++ .text " FROM " := rfl
  rw [written, clauses, list]
  simp only [Fragment.append_assoc]

/-- Where a query compiles, each query that its clauses hold has a plan, whose SELECT stands in
these clauses. -/
theorem contains_of_inner {body : Body} (compiled : query.body dialect = .ok body) :
    ∀ child ∈ query.innerQueries, ∃ plan, child.selectPlan dialect = .ok plan ∧
      body.clauses.Contains plan.statement.fragment := by
  obtain ⟨source, introduced, filter, grouping, having, started, joined, filtered, -, held, -, text,
    -⟩ := body_parts compiled
  intro child member
  rcases mem_innerQueries.1 member with own | ⟨test, inside, own⟩
  · obtain ⟨plan, planned, rfl⟩ := Source.compile_of_query? own started
    obtain ⟨behind, rfl⟩ := fromClause_origin joined
    have listed := ((Fragment.Contains.parenthesized plan.statement.fragment).append_right
      (.text (" AS " ++ query.source.ref.table.name))).append_right (.text behind)
    refine ⟨plan, planned, ?_⟩
    rw [text]
    exact (((listed.append_left _).append_right _).append_right _).append_right _
  · rcases List.mem_append.1 inside with condition | condition
    · obtain ⟨scope, written, ran, whole, among, holds⟩ :=
        Predicate.conjunction_tests filtered test condition
      obtain ⟨plan, planned, within⟩ := Test.contains_of_compile own ran
      have clause := Fragment.Contains.conditionClause (List.mem_append_right
        ((query.implicitConditions dialect).map .text) among) " WHERE "
      refine ⟨plan, planned, ?_⟩
      rw [text]
      exact (((clause.append_left _).append_right _).append_right _).trans (holds.trans within)
    · obtain ⟨scope, written, ran, whole, among, holds⟩ :=
        Predicate.conjunction_tests held test condition
      obtain ⟨plan, planned, within⟩ := Test.contains_of_compile own ran
      have clause := Fragment.Contains.conditionClause among " HAVING "
      refine ⟨plan, planned, ?_⟩
      rw [text]
      exact (clause.append_left _).trans (holds.trans within)

/-- Where a query compiles, each query that its clauses hold has a plan. -/
theorem selectPlan_of_inner {body : Body} (compiled : query.body dialect = .ok body) :
    ∀ child ∈ query.innerQueries, ∃ plan, child.selectPlan dialect = .ok plan := by
  intro child member
  obtain ⟨plan, planned, -⟩ := contains_of_inner compiled child member
  exact ⟨plan, planned⟩

/-- The SELECT of each query in a query stands in the SELECT of the whole. -/
theorem contains_of_within {plan : SelectPlan} (within : inner.Within query)
    (planned : query.selectPlan dialect = .ok plan) :
    ∃ own, inner.selectPlan dialect = .ok own ∧
      plan.statement.fragment.Contains own.statement.fragment := by
  induction within generalizing plan with
  | refl => exact ⟨plan, planned, .refl _⟩
  | inner member below ih =>
    obtain ⟨body, rest, compiled, -, text⟩ := selectPlan_written planned
    obtain ⟨child, selected, clauses⟩ := contains_of_inner compiled _ member
    obtain ⟨own, innermost, inside⟩ := ih selected
    refine ⟨own, innermost, ?_⟩
    rw [text]
    exact ((clauses.append_left _).append_right _).trans inside

/-- A query that has a plan has plans for all queries in it. -/
theorem selectPlan_of_within (within : inner.Within query)
    (planned : ∃ plan, query.selectPlan dialect = .ok plan) :
    ∃ plan, inner.selectPlan dialect = .ok plan := by
  obtain ⟨plan, ran⟩ := planned
  obtain ⟨own, innermost, -⟩ := contains_of_within within ran
  exact ⟨own, innermost⟩

end Query

end PreparedSql
