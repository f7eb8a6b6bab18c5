import PreparedSql.Connection.Executor
import PreparedSql.Dialect.Standard
import PreparedSql.Proofs.Bounded.Errors
import PreparedSql.Proofs.BuildSteps
import PreparedSql.Proofs.Lookup
import PreparedSql.Proofs.PredicateTests
import PreparedSql.Query.Reading
import PreparedSql.Query.Writing

/-! An UPDATE or DELETE without a condition is refused, and no other one is. What counts as a
condition is a test somewhere below the filters, and whatever has one also has a WHERE text. -/

namespace PreparedSql

variable {dialect : Dialect}

theorem placeholderTest_ne_empty (dialect : Dialect) (ignoreCase : Bool)
    (column : QualifiedColumn) (operator : Comparison) :
    placeholderTest dialect ignoreCase column operator ≠ "" := by
  unfold placeholderTest
  split
  next => split <;> simp
  next => simp

/-- A test has a text, unless it is verbatim and has none. -/
theorem Test.sql_ne_empty {scope : Scope} {test : Test} {fragment : Fragment}
    (written : ∀ sql, test = .raw sql → sql ≠ "")
    (compiled : test.compile dialect scope = .ok fragment) : fragment.sql ≠ "" := by
  cases test with
  | compareValue spec operator value =>
    obtain ⟨column, -, rest⟩ := Attempt.bind_eq_ok.1 compiled
    cases value with
    | none => cases operator <;> cases rest <;> simp
    | some datum =>
      cases rest
      exact placeholderTest_ne_empty dialect scope.ignoreCase column operator
  | compareRaw spec operator sql =>
    obtain ⟨column, -, rest⟩ := Attempt.bind_eq_ok.1 compiled
    cases Attempt.pure_eq_ok.1 rest
    simp [rawTest]
  | compareQuery spec operator query =>
    obtain ⟨column, -, rest⟩ := Attempt.bind_eq_ok.1 compiled
    obtain ⟨nested, -, rest⟩ := Attempt.bind_eq_ok.1 rest
    cases Attempt.pure_eq_ok.1 rest
    simp [queryTest, parenthesized]
  | inList spec operator values =>
    obtain ⟨column, -, rest⟩ := Attempt.bind_eq_ok.1 compiled
    cases values with
    | nil => cases rest; cases operator <;> decide
    | cons value values =>
      simp only [listTest] at rest
      split at rest
      next => cases rest
      next => cases rest; simp
  | inQuery spec operator query =>
    obtain ⟨column, -, rest⟩ := Attempt.bind_eq_ok.1 compiled
    obtain ⟨-, -, rest⟩ := Attempt.bind_eq_ok.1 rest
    obtain ⟨nested, -, rest⟩ := Attempt.bind_eq_ok.1 rest
    cases Attempt.pure_eq_ok.1 rest
    simp [queryTest, parenthesized]
  | raw sql =>
    cases compiled
    exact written sql rfl

theorem combine_ne_empty (connective : Connective) {pieces : List Fragment}
    (written : ∀ piece ∈ pieces, piece.sql ≠ "") : (connective.combine pieces).sql ≠ "" := by
  match pieces with
  | [] => cases connective <;> decide
  | [only] => exact written only List.mem_cons_self
  | first :: second :: rest => simp [Connective.combine, parenthesized]

namespace Predicate

mutual

/-- A predicate has a text, unless it is nothing but a verbatim test without one. -/
theorem sql_ne_empty {scope : Scope} {fragment : Fragment} : (predicate : Predicate) →
    (∀ sql, Test.raw sql ∈ predicate.tests → sql ≠ "") →
    predicate.compile dialect scope = .ok fragment → fragment.sql ≠ ""
  | .leaf settings test, written, compiled =>
    Test.sql_ne_empty (fun sql same => written sql (by simp [tests, same])) compiled
  | .node settings connective children, written, compiled => by
      obtain ⟨pieces, ran, rest⟩ := Attempt.bind_eq_ok.1 compiled
      cases Attempt.pure_eq_ok.1 rest
      exact combine_ne_empty connective (pieces_ne_empty children written ran)

theorem pieces_ne_empty {scope : Scope} {pieces : List Fragment} : (children : List Predicate) →
    (∀ sql, Test.raw sql ∈ testsOfAll children → sql ≠ "") →
    compileAll dialect scope children = .ok pieces → ∀ piece ∈ pieces, piece.sql ≠ ""
  | [], _, compiled => by
      cases compiled
      simp
  | child :: children, written, compiled => by
      obtain ⟨first, ran, rest⟩ := Attempt.bind_eq_ok.1 compiled
      obtain ⟨others, ranOthers, done⟩ := Attempt.bind_eq_ok.1 rest
      cases Attempt.pure_eq_ok.1 done
      refine List.forall_mem_cons.2 ⟨?_, ?_⟩
      · exact child.sql_ne_empty (fun sql member => written sql (List.mem_append_left _ member)) ran
      · exact pieces_ne_empty children
          (fun sql member => written sql (List.mem_append_right _ member)) ranOthers

end

/-- No test stands in any of the predicates. -/
theorem allEmpty_iff_forall {children : List Predicate} :
    allEmpty children = true ↔ ∀ child ∈ children, child.tests = [] := by
  rw [allEmpty_iff, testsOfAll_eq_flatMap, List.flatMap_eq_nil_iff]

end Predicate

/-- How a mutation of a table ends, given the predicates it is filtered by, how these compile, and
what is written in front of the WHERE clause. -/
structure Ends (mutation : Mutation) (table : String) (predicates : List Predicate)
    (compiled : Except CompileError Fragment) (front : Fragment)
    (outcome : Except CompileError Statement) : Prop where
  /-- It is refused just when no test stands anywhere in the predicates. -/
  refused_iff : (∃ other label, outcome = .error (.unboundedMutation other label)) ↔
    ∀ predicate ∈ predicates, predicate.tests = []
  refusal : (∀ predicate ∈ predicates, predicate.tests = []) →
    outcome = .error (.unboundedMutation mutation table)
  /-- Otherwise it fails as the predicates do, -/
  failed : ∀ reason, (∃ predicate ∈ predicates, predicate.tests ≠ []) →
    compiled = .error reason → outcome = .error reason
  /-- or it is written with their text behind WHERE. -/
  finished : ∀ condition, (∃ predicate ∈ predicates, predicate.tests ≠ []) →
    compiled = .ok condition → ∃ statement, outcome = .ok statement ∧
      statement.hasWhere = true ∧ statement.sql = front.sql ++ " WHERE " ++ condition.sql ∧
      statement.binds = front.binds ++ condition.binds
  nonempty : (∀ predicate ∈ predicates, ∀ sql, Test.raw sql ∈ predicate.tests → sql ≠ "") →
    ∀ condition, compiled = .ok condition → condition.sql ≠ ""

/-- The WHERE condition and the check at the end of an UPDATE or DELETE. -/
def finishWhere (query : Query) (dialect : Dialect) (kind : StatementKind) (table : TableRef)
    (front : Fragment) : Except CompileError Statement := do
  let condition ← query.mutationCondition dialect table
  finishMutation kind table condition.isSome
    (front ++ conditionClause " WHERE " condition.toList)

theorem condition_compile (query : Query) (dialect : Dialect) (scope : Scope) :
    query.condition.compile dialect scope =
      (Predicate.compileAll dialect scope query.filters).map Connective.and.combine := by
  have same : scope.enter {} = scope := by cases scope; rfl
  unfold Query.condition
  rw [Predicate.compile, same]
  cases Predicate.compileAll dialect scope query.filters <;> rfl

namespace Query

variable {query : Query} {table : TableRef}

theorem mutationCondition_of_hollow (hollow : ∀ predicate ∈ query.filters, predicate.tests = []) :
    query.mutationCondition dialect table = .ok none := by
  have empty : Predicate.allEmpty query.filters = true :=
    Predicate.allEmpty_iff_forall.2 hollow
  unfold mutationCondition conjunction
  rw [if_pos empty]

theorem mutationCondition_of_test (test : ∃ predicate ∈ query.filters, predicate.tests ≠ []) :
    query.mutationCondition dialect table =
      (query.condition.compile dialect (query.mutationScope table)).map some := by
  have present : ¬ Predicate.allEmpty query.filters = true := by
    intro empty
    obtain ⟨predicate, member, some⟩ := test
    exact some (Predicate.allEmpty_iff_forall.1 empty predicate member)
  unfold mutationCondition conjunction
  rw [if_neg present, condition_compile, Attempt.map_map]

/-- With a condition a statement is always bounded. -/
theorem finishMutation_of_where (kind : StatementKind) (table : TableRef) (fragment : Fragment) :
    finishMutation kind table true fragment =
      .ok ⟨fragment.sql, fragment.binds, kind, table.table.name, true⟩ := by
  cases kind <;> rfl

/-- The kinds of statement that are refused without a condition. -/
def Guards (mutation : Mutation) (kind : StatementKind) : Prop :=
  kind = .update ∧ mutation = .update ∨ kind = .delete ∧ mutation = .delete

variable {kind : StatementKind} {mutation : Mutation}

theorem finishWhere_of_hollow (guards : Guards mutation kind)
    (hollow : ∀ predicate ∈ query.filters, predicate.tests = []) (front : Fragment) :
    finishWhere query dialect kind table front =
      .error (.unboundedMutation mutation table.table.name) := by
  unfold finishWhere
  rw [mutationCondition_of_hollow hollow]
  rcases guards with ⟨rfl, rfl⟩ | ⟨rfl, rfl⟩ <;> rfl

theorem finishWhere_of_test (test : ∃ predicate ∈ query.filters, predicate.tests ≠ [])
    (kind : StatementKind) (front : Fragment) :
    finishWhere query dialect kind table front =
      (query.condition.compile dialect (query.mutationScope table)).map fun condition =>
        ⟨front.sql ++ " WHERE " ++ condition.sql, front.binds ++ condition.binds, kind,
          table.table.name, true⟩ := by
  unfold finishWhere
  rw [mutationCondition_of_test test, Attempt.bind_map]
  cases query.condition.compile dialect (query.mutationScope table) with
  | error reason => rfl
  | ok condition =>
    have written : front ++ conditionClause " WHERE " [condition] =
        ⟨front.sql ++ " WHERE " ++ condition.sql, front.binds ++ condition.binds⟩ := by
      apply Fragment.ext
      · simp [conditionClause, String.append_assoc]
      · simp [conditionClause]
    show finishMutation kind table true (front ++ conditionClause " WHERE " [condition]) = _
    rw [finishMutation_of_where, written]
    rfl

theorem condition_sql_ne_empty {scope : Scope} {fragment : Fragment}
    (written : ∀ predicate ∈ query.filters, ∀ sql, Test.raw sql ∈ predicate.tests → sql ≠ "")
    (compiled : query.condition.compile dialect scope = .ok fragment) : fragment.sql ≠ "" := by
  apply query.condition.sql_ne_empty _ compiled
  intro sql member
  have inside : Test.raw sql ∈ Predicate.testsOfAll query.filters := member
  rw [Predicate.testsOfAll_eq_flatMap] at inside
  obtain ⟨predicate, filtered, here⟩ := List.mem_flatMap.1 inside
  exact written predicate filtered sql here

/-- How an UPDATE or DELETE ends, in terms of what it is filtered by. -/
theorem finishWhere_ends (query : Query) (dialect : Dialect) (guards : Guards mutation kind)
    (table : TableRef) (front : Fragment) :
    Ends mutation table.table.name query.filters
      (query.condition.compile dialect (query.mutationScope table)) front
      (finishWhere query dialect kind table front) where
  refused_iff := by
    constructor
    · rintro ⟨other, label, failed⟩
      by_contra some
      have test : ∃ predicate ∈ query.filters, predicate.tests ≠ [] := by
        simpa only [not_forall, exists_prop] using some
      rw [finishWhere_of_test test, Attempt.map_eq_error] at failed
      exact query.condition.compile_unrefused dialect _ other label failed
    · intro hollow
      exact ⟨mutation, table.table.name, finishWhere_of_hollow guards hollow front⟩
  refusal := by
    intro hollow
    exact finishWhere_of_hollow guards hollow front
  failed := by
    intro reason test failing
    rw [finishWhere_of_test test, failing]
    rfl
  finished := by
    intro condition test compiled
    rw [finishWhere_of_test test, compiled]
    exact ⟨_, rfl, rfl, rfl, rfl⟩
  nonempty := by
    intro written condition compiled
    exact condition_sql_ne_empty written compiled

/-- The statement comes from some plan of the query. -/
inductive Plans (query : Query) : Statement → Prop where
  | select {dialect : Dialect} {plan : SelectPlan} :
      query.selectPlan dialect = .ok plan → query.Plans plan.statement
  | count {dialect : Dialect} {statement : Statement} :
      query.countPlan dialect = .ok statement → query.Plans statement
  | insert {assignments : List Assignment} {statement : Statement} :
      query.insertPlan assignments = .ok statement → query.Plans statement
  | update {assignments : List Assignment} {dialect : Dialect} {statement : Statement} :
      query.updatePlan assignments dialect = .ok statement → query.Plans statement
  | delete {dialect : Dialect} {statement : Statement} :
      query.deletePlan dialect = .ok statement → query.Plans statement
  | deleteAll {statement : Statement} :
      query.deleteAllPlan = .ok statement → query.Plans statement

theorem checkBounded_of_finish {kind : StatementKind} {hasWhere : Bool} {fragment : Fragment}
    {statement : Statement}
    (finished : finishMutation kind table hasWhere fragment = .ok statement) :
    statement.checkBounded = .ok () := by
  obtain ⟨_, checked, done⟩ := Attempt.bind_eq_ok.1 finished
  cases Attempt.pure_eq_ok.1 done
  exact checked

/-- No plan ends in a statement that would be refused later. -/
theorem Plans.checkBounded {statement : Statement} (planned : query.Plans statement) :
    statement.checkBounded = .ok () := by
  cases planned with
  | select ran =>
    obtain ⟨body, -, rest⟩ := Attempt.bind_eq_ok.1 ran
    obtain ⟨fragment, -, done⟩ := Attempt.bind_eq_ok.1 rest
    cases Attempt.pure_eq_ok.1 done
    rfl
  | count ran =>
    obtain ⟨body, -, rest⟩ := Attempt.bind_eq_ok.1 ran
    split at rest
    next =>
      obtain ⟨fragment, -, done⟩ := Attempt.bind_eq_ok.1 rest
      cases done
      rfl
    next =>
      cases rest
      rfl
  | insert ran =>
    obtain ⟨table, -, rest⟩ := Attempt.bind_eq_ok.1 ran
    obtain ⟨assigned, -, finished⟩ := Attempt.bind_eq_ok.1 rest
    exact checkBounded_of_finish finished
  | update ran =>
    obtain ⟨table, -, rest⟩ := Attempt.bind_eq_ok.1 ran
    obtain ⟨assigned, -, rest⟩ := Attempt.bind_eq_ok.1 rest
    obtain ⟨condition, -, finished⟩ := Attempt.bind_eq_ok.1 rest
    exact checkBounded_of_finish finished
  | delete ran =>
    obtain ⟨table, -, rest⟩ := Attempt.bind_eq_ok.1 ran
    obtain ⟨condition, -, finished⟩ := Attempt.bind_eq_ok.1 rest
    exact checkBounded_of_finish finished
  | deleteAll ran =>
    obtain ⟨table, -, finished⟩ := Attempt.bind_eq_ok.1 ran
    exact checkBounded_of_finish finished

end Query

namespace Executor

variable {m : Type → Type} [Monad m] [MonadExceptOf CompileError m]

/-- A bounded statement that changes rows is executed, once. -/
theorem run_execute (executor : Executor m) {statement : Statement}
    (bounded : statement.checkBounded = .ok ())
    (changes : statement.kind ∈ [.insert, .update, .delete, .deleteAll]) :
    executor.run statement = Outcome.affected <$> executor.execute statement := by
  have mutates : statement.kind.isMutation = true := by
    revert changes
    cases statement.kind <;> decide
  unfold run
  rw [if_pos mutates, bounded]

/-- A statement that reads is fetched, once. -/
theorem run_fetchAll (executor : Executor m) {statement : Statement}
    (reads : statement.kind ∈ [.select, .count]) :
    executor.run statement = Outcome.rows <$> executor.fetchAll statement := by
  have only : ¬ statement.kind.isMutation = true := by
    revert reads
    cases statement.kind <;> decide
  unfold run
  rw [if_neg only]

end Executor

namespace Query

variable {query : Query} {table : TableRef}

theorem deletePlan_eq_finishWhere (target : query.mutationTarget .delete = .ok table)
    (dialect : Dialect) :
    query.deletePlan dialect =
      finishWhere query dialect .delete table (.text ("DELETE FROM " ++ table.table.name)) := by
  unfold deletePlan
  rw [target]
  rfl

theorem updatePlan_eq_finishWhere (target : query.mutationTarget .update = .ok table)
    {assignments : List Assignment} {assigned : List Assigned} (some : assignments ≠ [])
    (resolved : assignments.mapM (Assignment.resolve table) = .ok assigned) (dialect : Dialect) :
    query.updatePlan assignments dialect =
      finishWhere query dialect .update table
        (.text ("UPDATE " ++ table.table.name ++ " SET ") ++
          .join ", " (assigned.map Assigned.setClause)) := by
  have settings : resolveAssignments .update table assignments = .ok assigned :=
    resolveAssignments_eq_ok_iff.2 ⟨some, resolved⟩
  unfold updatePlan
  rw [target]
  show (resolveAssignments .update table assignments >>= _) = _
  rw [settings]
  rfl

end Query

/-- After any run of builder calls on a plain table, a DELETE or UPDATE is refused just when no
test has been filtered by; and whatever statement is planned is run by the one call for its
kind. -/
theorem unbounded_refused :
    (∀ (schema : Schema) (name : String) (start query : Query) (steps : List BuildStep)
        (dialect : Dialect), Query.ofTable schema name = .ok start →
      BuildStep.run steps start = .ok query → query.joins = [] →
      Ends .delete start.primary.table.name (steps.filterMap BuildStep.filtered?)
          (query.condition.compile dialect (query.mutationScope start.primary))
          (.text ("DELETE FROM " ++ start.primary.table.name))
          (query.deletePlan dialect) ∧
        ∀ assignments assigned, assignments ≠ [] →
          assignments.mapM (Assignment.resolve start.primary) = .ok assigned →
          Ends .update start.primary.table.name (steps.filterMap BuildStep.filtered?)
            (query.condition.compile dialect (query.mutationScope start.primary))
            (.text ("UPDATE " ++ start.primary.table.name ++ " SET ") ++
              .join ", " (assigned.map Assigned.setClause))
            (query.updatePlan assignments dialect)) ∧
    ∀ (query : Query) (statement : Statement), query.Plans statement →
      statement.checkBounded = .ok () ∧
      ∀ (m : Type → Type) [Monad m] [MonadExceptOf CompileError m] (executor : Executor m),
        (statement.kind ∈ [.insert, .update, .delete, .deleteAll] →
          executor.run statement = Outcome.affected <$> executor.execute statement) ∧
        (statement.kind ∈ [.select, .count] →
          executor.run statement = Outcome.rows <$> executor.fetchAll statement) := by
  constructor
  · intro schema name start query steps dialect began ran unjoined
    obtain ⟨source, filters⟩ := BuildStep.run_keeps ran
    obtain ⟨ref, found, rfl⟩ := Attempt.map_eq_ok.1 began
    obtain ⟨table, -, rfl⟩ := Attempt.map_eq_ok.1 found
    have target (mutation : Mutation) : query.mutationTarget mutation = .ok { table } := by
      unfold Query.mutationTarget
      rw [source, unjoined]
      rfl
    have predicates : steps.filterMap BuildStep.filtered? = query.filters := filters.symm
    rw [predicates]
    constructor
    · rw [Query.deletePlan_eq_finishWhere (target .delete) dialect]
      exact query.finishWhere_ends dialect (Or.inr ⟨rfl, rfl⟩) { table } _
    · intro assignments assigned some resolved
      rw [Query.updatePlan_eq_finishWhere (target .update) some resolved dialect]
      exact query.finishWhere_ends dialect (Or.inl ⟨rfl, rfl⟩) { table } _
  · intro query statement planned
    have bounded := planned.checkBounded
    refine ⟨bounded, ?_⟩
    intro m _ _ executor
    exact ⟨executor.run_execute bounded, executor.run_fetchAll⟩

def draftsSchema : Schema :=
  { name := "writing"
    tables := [{ name := "drafts", columns := [{ name := "id", type := .integer }] }] }

def draftsTable : TableRef :=
  { table := { name := "drafts", columns := [{ name := "id", type := .integer }] } }

/-- Filters that ask for nothing, and calls that do not filter. -/
def hollowSteps : List BuildStep :=
  [.filter (.any [.all [], .any []]), .having (.raw "id > 0"), .limit 1, .filter (.all [])]

def draftSeven : Predicate :=
  .any [.all [.compare (.named "ID") .equal (7 : Int64)]]

/-- One more filter, with a test below nodes of one child. -/
def boundingSteps : List BuildStep :=
  .filter draftSeven :: hollowSteps

theorem unbounded_refused_drafts :
    (∃ start query, Query.ofTable draftsSchema "Drafts" = .ok start ∧
      BuildStep.run hollowSteps start = .ok query ∧ query.joins = [] ∧
      query.deletePlan .mysql = .error (.unboundedMutation .delete "drafts")) ∧
    (∃ start query assigned statement, Query.ofTable draftsSchema "drafts" = .ok start ∧
      BuildStep.run boundingSteps start = .ok query ∧ query.joins = [] ∧
      [Assignment.mk (.named "id") none].mapM (Assignment.resolve start.primary) =
        .ok assigned ∧
      query.updatePlan [⟨.named "id", none⟩] .mysql = .ok statement ∧
      statement.hasWhere = true) ∧
    ∃ statement, Query.Plans { schema := draftsSchema, source := .table draftsTable } statement ∧
      ∀ executor : Executor (Except CompileError),
        executor.run statement = Outcome.affected <$> executor.execute statement := by
  refine ⟨?_, ?_, ?_⟩
  · have ends := unbounded_refused.1 draftsSchema "Drafts" _ _ hollowSteps .mysql rfl rfl rfl
    exact ⟨_, _, rfl, rfl, rfl, ends.1.refusal (by decide +kernel)⟩
  · have ends := unbounded_refused.1 draftsSchema "drafts" _ _ boundingSteps .mysql rfl rfl rfl
    have update := ends.2 [⟨.named "id", none⟩] _ (List.cons_ne_nil _ _) rfl
    have test : ∃ predicate ∈ boundingSteps.filterMap BuildStep.filtered?,
        predicate.tests ≠ [] :=
      ⟨draftSeven, List.mem_cons_self, List.cons_ne_nil _ _⟩
    obtain ⟨statement, planned, bounded, -, -⟩ := update.finished _ test rfl
    exact ⟨_, _, _, statement, rfl, rfl, rfl, rfl, planned, bounded⟩
  · have planned : Query.Plans { schema := draftsSchema, source := .table draftsTable }
        ⟨"DELETE FROM drafts", [], .deleteAll, "drafts", false⟩ :=
      .deleteAll rfl
    have runs := (unbounded_refused.2 _ _ planned).2 (Except CompileError)
    exact ⟨_, planned, fun executor => (runs executor).1 (by decide)⟩

end PreparedSql
