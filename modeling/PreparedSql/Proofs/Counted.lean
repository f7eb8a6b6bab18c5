import PreparedSql.Proofs.Introduced
import PreparedSql.Proofs.StandardDialects

/-! Counting counts what is selected. Where a clause acts on whole rows, the SELECT itself is
counted; otherwise both statements go on alike behind their lists, up to the ORDER BY. -/

namespace PreparedSql

/-- The statement that counts the rows of another one. -/
def Statement.counting (statement : Statement) : Statement :=
  { statement with
    sql := "SELECT COUNT(*) FROM (" ++ statement.sql ++ ") AS count_subquery"
    kind := .count }

namespace Query

/-- Some clause changes which rows there are to count. -/
def ActsOnRows (query : Query) : Prop :=
  query.isDistinct = true ∨ query.grouping ≠ [] ∨ query.havings ≠ [] ∨
    query.rowLimit ≠ none ∨ query.rowOffset ≠ none

variable {query : Query} {dialect : Dialect}

theorem countsRows_iff : query.countsRows = true ↔ query.ActsOnRows := by
  unfold countsRows hasLimitOrOffset ActsOnRows
  simp only [Bool.or_eq_true, Bool.not_eq_true', List.isEmpty_eq_false_iff,
    Option.isSome_iff_ne_none, or_assoc]

/-- With such a clause the count is that of the SELECT, and it fails as the SELECT does. -/
theorem countPlan_of_acts (acts : query.ActsOnRows) (dialect : Dialect) :
    query.countPlan dialect =
      (query.selectPlan dialect).map fun plan => plan.statement.counting := by
  have counts : query.countsRows = true := countsRows_iff.2 acts
  unfold countPlan selectPlan
  rw [Attempt.map_bind]
  refine Attempt.bind_congr fun body => ?_
  simp only [counts, if_true]
  cases query.selectWith dialect body with
  | error reason => rfl
  | ok selected =>
    have sql : (.text "SELECT COUNT(*) FROM " ++ parenthesized selected ++
        .text " AS count_subquery" : Fragment).sql =
          "SELECT COUNT(*) FROM (" ++ selected.sql ++ ") AS count_subquery" := by
      have opening : "SELECT COUNT(*) FROM (" = "SELECT COUNT(*) FROM " ++ "(" := rfl
      have closing : ") AS count_subquery" = ")" ++ " AS count_subquery" := rfl
      simp only [parenthesized, Fragment.sql_append, Fragment.sql_text, opening, closing,
        String.append_assoc]
    have binds : (.text "SELECT COUNT(*) FROM " ++ parenthesized selected ++
        .text " AS count_subquery" : Fragment).binds = selected.binds := by
      simp only [parenthesized, Fragment.binds_append, Fragment.binds_text, List.nil_append,
        List.append_nil]
    refine congrArg Except.ok ?_
    rw [Statement.mk.injEq]
    exact ⟨sql, binds, rfl, rfl, rfl⟩

/-- Otherwise the clauses from FROM on are counted as they are. -/
theorem countPlan_of_not_acts (plain : ¬ query.ActsOnRows) (dialect : Dialect) :
    query.countPlan dialect = (query.body dialect).map fun body =>
      { sql := "SELECT COUNT(*)" ++ body.clauses.sql
        binds := body.clauses.binds
        kind := .count
        table := query.primary.label
        hasWhere := body.hasWhere } := by
  have direct : query.countsRows = false := Bool.eq_false_iff.2 (mt countsRows_iff.1 plain)
  unfold countPlan
  simp only [direct]
  cases query.body dialect <;> rfl

/-- What is counted directly are the rows of the tables in FROM, as far as WHERE lets them pass. -/
theorem countPlan_sql_of_not_acts {ref : TableRef} (reads : query.source = .table ref)
    (plain : ¬ query.ActsOnRows) {counted : Statement}
    (found : query.countPlan dialect = .ok counted) :
    ∃ condition, counted.sql = "SELECT COUNT(*) FROM " ++ query.tableList dialect ++
      SelectClauses.optional " WHERE " condition := by
  rw [countPlan_of_not_acts plain] at found
  obtain ⟨body, compiled, rfl⟩ := Attempt.map_eq_ok.1 found
  obtain ⟨source, joined, filter, grouping, having, started, joining, -, grouped, held, -, text,
    -⟩ := body_parts compiled
  simp only [ActsOnRows, not_or, ne_eq, not_not] at plain
  obtain ⟨-, noGroups, noHavings, -, -⟩ := plain
  have ungrouped : grouping = "" := by
    unfold groupClause at grouped
    rw [noGroups] at grouped
    exact (Except.ok.inj grouped).symm
  have unconditional : having = none := by
    rw [noHavings] at held
    exact (Except.ok.inj held).symm
  refine ⟨joinedCondition (((query.implicitConditions dialect).map Fragment.text ++
    filter.toList).map Fragment.sql), ?_⟩
  have unbound : SelectClauses.optional " HAVING " (joinedCondition []) = "" := rfl
  have opening : "SELECT COUNT(*) FROM " = "SELECT COUNT(*)" ++ " FROM " := rfl
  show "SELECT COUNT(*)" ++ body.clauses.sql = _
  rw [text, ungrouped, unconditional, ← fromClause_sql_of_table reads started joining, opening]
  simp only [Fragment.sql_append, Fragment.sql_text, conditionClause_sql, Option.toList_none,
    List.map_nil, unbound, String.append_empty, String.append_assoc]

/-- Without limit and offset the known dialects write nothing. -/
theorem limiting_none_of_standard (known : dialect ∈ Dialect.standard) :
    dialect.limiting none none = .ok "" := by
  rcases Dialect.mem_standard.1 known with rfl | rfl | rfl | rfl <;> rfl

/-- ORDER BY can be written when all its columns are found. -/
theorem exists_orderClause
    (resolves : ∀ entry ∈ query.ordering, ∀ spec, entry.target = .column spec →
      ∃ column, query.resolve spec = .ok column) (dialect : Dialect) :
    ∃ ordering, query.orderClause dialect = .ok ordering := by
  unfold orderClause
  split
  next => exact ⟨"", rfl⟩
  next =>
    have keys : ∃ keys, (query.ordering.mapM fun entry =>
        (query.orderSql dialect entry.target).map (· ++ " " ++ entry.direction.keyword)) =
          .ok keys := by
      apply Attempt.exists_mapM_iff.2
      rintro ⟨target, direction⟩ member
      cases target with
      | column spec =>
        obtain ⟨column, found⟩ := resolves _ member spec rfl
        simp only [orderSql, found]
        exact ⟨_, rfl⟩
      | raw sql => exact ⟨_, rfl⟩
    obtain ⟨keys, written⟩ := keys
    exact ⟨_, Attempt.bind_eq_ok.2 ⟨keys, written, rfl⟩⟩

/-- Otherwise the SELECT is its list, what is counted, and the ORDER BY. -/
theorem selectPlan_of_not_acts (known : dialect ∈ Dialect.standard) (plain : ¬ query.ActsOnRows) :
    query.selectPlan dialect = (do
      let body ← query.body dialect
      let ordering ← query.orderClause dialect
      return {
        statement :=
          { sql := "SELECT " ++ ", ".intercalate (body.layout.map Slot.sql) ++ body.clauses.sql ++
              ordering
            binds := body.clauses.binds
            kind := .select
            table := query.primary.label
            hasWhere := body.hasWhere }
        layout := body.layout
        primary := query.primary
        joins := query.joins }) := by
  simp only [ActsOnRows, not_or, ne_eq, not_not, Bool.not_eq_true] at plain
  obtain ⟨everyRow, -, -, noLimit, noOffset⟩ := plain
  unfold selectPlan
  refine Attempt.bind_congr fun body => ?_
  unfold selectWith selectList
  rw [noLimit, noOffset, limiting_none_of_standard known, everyRow]
  cases query.orderClause dialect with
  | error reason => rfl
  | ok ordering =>
    refine congrArg Except.ok ?_
    simp only [Fragment.sql_append, Fragment.sql_text, Fragment.binds_append, Fragment.binds_text,
      Bool.false_eq_true, if_false, String.empty_append, String.append_empty, List.nil_append,
      List.append_nil]

end Query

/-- Counting succeeds where selecting does, with the parameters of the SELECT. -/
theorem count_agrees {dialect : Dialect} (known : dialect ∈ Dialect.standard) (query : Query) :
    (∀ plan, query.selectPlan dialect = .ok plan →
      ∃ counted, query.countPlan dialect = .ok counted ∧ counted.kind = .count ∧
        counted.binds = plan.statement.binds ∧ counted.hasWhere = plan.statement.hasWhere ∧
        counted.table = plan.statement.table) ∧
    (query.ActsOnRows →
      (∀ plan, query.selectPlan dialect = .ok plan →
        (query.countPlan dialect).map Statement.sql =
          .ok ("SELECT COUNT(*) FROM (" ++ plan.statement.sql ++ ") AS count_subquery")) ∧
      ∀ reason, query.countPlan dialect = .error reason ↔
        query.selectPlan dialect = .error reason) ∧
    (¬ query.ActsOnRows →
      (∀ plan, query.selectPlan dialect = .ok plan →
        ∃ clauses ordering, query.orderClause dialect = .ok ordering ∧
          plan.statement.sql =
            "SELECT " ++ ", ".intercalate (plan.layout.map Slot.sql) ++ clauses ++ ordering ∧
          (query.countPlan dialect).map Statement.sql = .ok ("SELECT COUNT(*)" ++ clauses)) ∧
      ∀ counted, query.countPlan dialect = .ok counted →
        (∀ entry ∈ query.ordering, ∀ spec, entry.target = .column spec →
          ∃ column, query.resolve spec = .ok column) →
        ∃ plan, query.selectPlan dialect = .ok plan) := by
  refine ⟨?_, ?_, ?_⟩
  · intro plan planned
    by_cases acts : query.ActsOnRows
    · rw [Query.countPlan_of_acts acts, planned]
      exact ⟨_, rfl, rfl, rfl, rfl, rfl⟩
    · rw [Query.selectPlan_of_not_acts known acts] at planned
      obtain ⟨body, compiled, rest⟩ := Attempt.bind_eq_ok.1 planned
      obtain ⟨ordering, -, done⟩ := Attempt.bind_eq_ok.1 rest
      cases Attempt.pure_eq_ok.1 done
      rw [Query.countPlan_of_not_acts acts, compiled]
      exact ⟨_, rfl, rfl, rfl, rfl, rfl⟩
  · intro acts
    rw [Query.countPlan_of_acts acts]
    refine ⟨?_, fun reason => Attempt.map_eq_error⟩
    intro plan planned
    rw [planned]
    rfl
  · intro plain
    rw [Query.selectPlan_of_not_acts known plain, Query.countPlan_of_not_acts plain]
    constructor
    · intro plan planned
      obtain ⟨body, compiled, rest⟩ := Attempt.bind_eq_ok.1 planned
      obtain ⟨ordering, ordered, done⟩ := Attempt.bind_eq_ok.1 rest
      cases Attempt.pure_eq_ok.1 done
      rw [compiled]
      exact ⟨body.clauses.sql, ordering, ordered, rfl, rfl⟩
    · intro counted found resolves
      obtain ⟨body, compiled, -⟩ := Attempt.map_eq_ok.1 found
      obtain ⟨ordering, ordered⟩ := Query.exists_orderClause resolves dialect
      rw [compiled, ordered]
      exact ⟨_, rfl⟩

/-- The books with their people, the latest first. -/
def latestBooks : Query :=
  (staffQuery .implicit .left (some "editor")).orderBy (.named "book.id") .descending

/-- The first two of the books that have a later editor. -/
def latestPage : Query :=
  (latestBooks.limit 2).filter (.compare (.named "editor.id") .greater (7 : Int64))

/-- The books are counted directly, and the page by its SELECT, also where that fails. -/
theorem count_agrees_staff :
    ∃ plan counted pagePlan, ¬ latestBooks.ActsOnRows ∧
      latestBooks.selectPlan .sqlite = .ok plan ∧ latestBooks.countPlan .sqlite = .ok counted ∧
      counted.binds = plan.statement.binds ∧
      (∃ clauses ordering, latestBooks.orderClause .sqlite = .ok ordering ∧
        plan.statement.sql =
          "SELECT " ++ ", ".intercalate (plan.layout.map Slot.sql) ++ clauses ++ ordering ∧
        (latestBooks.countPlan .sqlite).map Statement.sql = .ok ("SELECT COUNT(*)" ++ clauses)) ∧
      latestPage.ActsOnRows ∧ latestPage.selectPlan .mysql = .ok pagePlan ∧
      (latestPage.countPlan .mysql).map Statement.sql =
        .ok ("SELECT COUNT(*) FROM (" ++ pagePlan.statement.sql ++ ") AS count_subquery") ∧
      (latestPage.groupBy (.named "publisher")).countPlan .mysql =
        .error (.unknownColumn "book" "publisher") := by
  have plain : ¬ latestBooks.ActsOnRows := mt Query.countsRows_iff.2 (by decide)
  have acts : latestPage.ActsOnRows := Query.countsRows_iff.1 rfl
  have books := @count_agrees .sqlite (by simp [Dialect.standard]) latestBooks
  have page := @count_agrees .mysql (by simp [Dialect.standard]) latestPage
  have grouped := @count_agrees .mysql (by simp [Dialect.standard])
    (latestPage.groupBy (.named "publisher"))
  obtain ⟨counted, ran, -, binds, -⟩ := books.1 _ rfl
  exact ⟨_, counted, _, plain, rfl, ran, binds, (books.2.2 plain).1 _ rfl, acts, rfl,
    (page.2.1 acts).1 _ rfl, ((grouped.2.1 (Query.countsRows_iff.1 rfl)).2 _).2 rfl⟩

end PreparedSql
