import PreparedSql.Proofs.Counted
import PreparedSql.Proofs.Nested.Hindered
import PreparedSql.Query.Build

/-! Dialects without derived tables. No SELECT reads from a derived table there, neither that of a
query nor that of any query inside it, and a query that asks for one is refused. Counting does not
ask: where a SELECT has to be counted as it is, it is put into FROM whatever the dialect. -/

namespace PreparedSql

namespace Dialect

/-- The failure that says derived tables are lacking. -/
def noDerivedTables (dialect : Dialect) : CompileError :=
  .unsupported dialect.name "sub-queries in FROM"

/-- The dialect as it would be if it had derived tables. -/
def withDerivedTables (dialect : Dialect) : Dialect :=
  { dialect with derivedTables := true }

end Dialect

variable {dialect : Dialect}

/-- A source that compiles without derived tables is a table. -/
theorem Source.exists_table_of_compile (lacking : dialect.derivedTables = false) {source : Source}
    {fragment : Fragment} (started : source.compile dialect = .ok fragment) :
    ∃ ref, source = .table ref := by
  cases source with
  | table ref => exact ⟨ref, rfl⟩
  | derived ref query =>
    obtain ⟨value, checked, -⟩ := Attempt.bind_eq_ok.1 started
    unfold Dialect.checkDerivedTable at checked
    rw [lacking] at checked
    cases checked

namespace Query

variable {query inner : Query}

/-- The query compiles to a SELECT whose FROM clause names tables and nothing else. -/
structure NamesTables (query : Query) (dialect : Dialect) : Prop where
  source : ∃ ref, query.source = .table ref
  select : ∃ plan clauses, query.selectPlan dialect = .ok plan ∧ query.HasClauses dialect clauses ∧
    plan.statement.sql = clauses.sql ∧ clauses.origin = query.tableList dialect

theorem exists_table_of_body (lacking : dialect.derivedTables = false) {body : Body}
    (compiled : query.body dialect = .ok body) : ∃ ref, query.source = .table ref := by
  obtain ⟨source, -, -, -, -, started, -⟩ := body_parts compiled
  exact Source.exists_table_of_compile lacking started

theorem namesTables_of_planned (lacking : dialect.derivedTables = false)
    (planned : ∃ plan, query.selectPlan dialect = .ok plan) : query.NamesTables dialect := by
  obtain ⟨plan, planned⟩ := planned
  obtain ⟨body, compiled, -⟩ := Attempt.bind_eq_ok.1 planned
  obtain ⟨ref, reads⟩ := exists_table_of_body lacking compiled
  obtain ⟨clauses, has, sql, origin⟩ := selectPlan_clauses_of_table reads planned
  exact ⟨⟨ref, reads⟩, plan, clauses, planned, has, sql, origin⟩

/-- Some query, at any depth, reads the rows of another one through a derived table. -/
def ReadsDerived (query : Query) : Prop :=
  ∃ inner : Query, inner.Within query ∧ ∃ rows, inner.source.query? = some rows

end Query

/-! What stands in the way of a query: derived tables, or something that is no less in the way
where there are such tables. -/

theorem Test.Exceeds.withDerivedTables {test : Test} {reason : CompileError}
    (exceeds : test.Exceeds dialect reason) : test.Exceeds dialect.withDerivedTables reason := by
  cases exceeds with
  | limited asked lacking => exact .limited asked lacking

theorem Source.Exceeds.eq_noDerivedTables {source : Source} {reason : CompileError}
    (exceeds : source.Exceeds dialect reason) : reason = dialect.noDerivedTables := by
  cases exceeds
  rfl

theorem Query.Obstacle.beyond {query : Query} {reason : CompileError}
    (obstacle : query.Obstacle dialect reason) :
    reason = dialect.noDerivedTables ∨ query.Obstacle dialect.withDerivedTables reason := by
  obtain ⟨inner, within, exceeds⟩ := obstacle
  cases exceeds with
  | source exceeds => exact Or.inl exceeds.eq_noDerivedTables
  | test member exceeds => exact Or.inr ⟨inner, within, .test member exceeds.withDerivedTables⟩
  | limit refused => exact Or.inr ⟨inner, within, .limit refused⟩

theorem Source.Obstacle.beyond {source : Source} {reason : CompileError}
    (obstacle : source.Obstacle dialect reason) :
    reason = dialect.noDerivedTables ∨ source.Obstacle dialect.withDerivedTables reason := by
  rcases obstacle with exceeds | ⟨query, own, obstacle⟩
  · exact Or.inl exceeds.eq_noDerivedTables
  · exact obstacle.beyond.imp_right fun obstacle => Or.inr ⟨query, own, obstacle⟩

theorem Test.Obstacle.beyond {test : Test} {reason : CompileError}
    (obstacle : test.Obstacle dialect reason) :
    reason = dialect.noDerivedTables ∨ test.Obstacle dialect.withDerivedTables reason := by
  rcases obstacle with exceeds | ⟨query, own, obstacle⟩
  · exact Or.inr (Or.inl exceeds.withDerivedTables)
  · exact obstacle.beyond.imp_right fun obstacle => Or.inr ⟨query, own, obstacle⟩

/-- Where derived tables are all that is in the way, the failure names them. -/
theorem Hindered.eq_noDerivedTables {α β γ : Type} {obstacle obstacle' : CompileError → Prop}
    {free : Except CompileError α} {bound : Except CompileError β}
    {bound' : Except CompileError γ} (hindered : Hindered obstacle free bound)
    (hindered' : Hindered obstacle' free bound')
    (beyond : ∀ reason, obstacle reason → reason = dialect.noDerivedTables ∨ obstacle' reason)
    (asked : ∃ reason, obstacle reason) {result : γ} (done : bound' = .ok result) :
    bound = .error dialect.noDerivedTables := by
  obtain ⟨value, present⟩ := hindered'.free_of_ok result done
  cases outcome : bound with
  | ok other =>
    obtain ⟨reason, here⟩ := asked
    exact absurd here (hindered.clear other outcome reason)
  | error reason =>
    rcases beyond reason (hindered.obstacle_of_error value reason present outcome) with rfl | also
    · rfl
    · exact absurd also (hindered'.clear result done reason)

namespace Query

variable {query : Query}

/-- A derived table, anywhere in the body, is in the way. -/
theorem ReadsDerived.exists_obstacle (lacking : dialect.derivedTables = false)
    (derived : query.ReadsDerived) :
    ∃ reason, query.source.Obstacle dialect reason ∨
      ∃ test ∈ query.tests, test.Obstacle dialect reason := by
  obtain ⟨inner, within, rows, reads⟩ := derived
  have exceeds : inner.source.Exceeds dialect dialect.noDerivedTables := by
    cases from_ : inner.source with
    | table ref =>
      rw [from_] at reads
      cases reads
    | derived ref nested => exact .derived lacking
  refine ⟨dialect.noDerivedTables, ?_⟩
  rcases within_iff.1 within with rfl | ⟨child, member, below⟩
  · exact Or.inl (Or.inl exceeds)
  · have obstacle : child.Obstacle dialect dialect.noDerivedTables :=
      ⟨inner, below, .source exceeds⟩
    rcases mem_innerQueries.1 member with own | ⟨test, inside, own⟩
    · exact Or.inl (Or.inr ⟨child, own, obstacle⟩)
    · exact Or.inr ⟨test, inside, Or.inr ⟨child, own, obstacle⟩⟩

theorem selectPlan_of_readsDerived (lacking : dialect.derivedTables = false)
    (derived : query.ReadsDerived) {plan : SelectPlan}
    (planned : query.selectPlan dialect.withDerivedTables = .ok plan) :
    query.selectPlan dialect = .error dialect.noDerivedTables := by
  obtain ⟨reason, here⟩ := derived.exists_obstacle lacking
  exact (Hindered.selectPlan query).eq_noDerivedTables (Hindered.selectPlan query)
    (fun _ obstacle => obstacle.beyond) ⟨reason, obstacle_iff.2 (Or.inl here)⟩ planned

theorem body_of_readsDerived (lacking : dialect.derivedTables = false)
    (derived : query.ReadsDerived) {body : Body}
    (compiled : query.body dialect.withDerivedTables = .ok body) :
    query.body dialect = .error dialect.noDerivedTables := by
  refine query.body_hindered.eq_noDerivedTables query.body_hindered ?_
    (derived.exists_obstacle lacking) compiled
  rintro reason (obstacle | ⟨test, member, obstacle⟩)
  · exact obstacle.beyond.imp_right Or.inl
  · exact obstacle.beyond.imp_right fun obstacle => Or.inr ⟨test, member, obstacle⟩

theorem countPlan_of_readsDerived (lacking : dialect.derivedTables = false)
    (derived : query.ReadsDerived) {counted : Statement}
    (found : query.countPlan dialect.withDerivedTables = .ok counted) :
    query.countPlan dialect = .error dialect.noDerivedTables := by
  by_cases acts : query.ActsOnRows
  · rw [countPlan_of_acts acts] at found ⊢
    obtain ⟨plan, planned, -⟩ := Attempt.map_eq_ok.1 found
    exact Attempt.map_eq_error.2 (selectPlan_of_readsDerived lacking derived planned)
  · rw [countPlan_of_not_acts acts] at found ⊢
    obtain ⟨body, compiled, -⟩ := Attempt.map_eq_ok.1 found
    exact Attempt.map_eq_error.2 (body_of_readsDerived lacking derived compiled)

end Query

/-- Where derived tables are lacking, no SELECT reads from one, at any depth, and a query that asks
for one fails for that reason if there is no other. Counting keeps to this inside the query; but
where the rows of the SELECT are counted, the SELECT itself is put into FROM. -/
theorem derived_only_to_count {dialect : Dialect} (lacking : dialect.derivedTables = false)
    (query : Query) :
    (∀ plan, query.selectPlan dialect = .ok plan →
      ∀ inner : Query, inner.Within query → inner.NamesTables dialect) ∧
    (∀ counted, query.countPlan dialect = .ok counted →
      (∀ child ∈ query.innerQueries, ∀ inner : Query, inner.Within child →
        inner.NamesTables dialect) ∧
      (¬ query.ActsOnRows → (∃ ref, query.source = .table ref) ∧
        ∃ condition, counted.sql = "SELECT COUNT(*) FROM " ++ query.tableList dialect ++
          SelectClauses.optional " WHERE " condition) ∧
      (query.ActsOnRows → query.NamesTables dialect ∧
        ∃ plan, query.selectPlan dialect = .ok plan ∧
          counted.sql = "SELECT COUNT(*) FROM (" ++ plan.statement.sql ++ ") AS count_subquery")) ∧
    (query.ReadsDerived →
      (∀ plan, query.selectPlan dialect.withDerivedTables = .ok plan →
        query.selectPlan dialect = .error dialect.noDerivedTables) ∧
      ∀ counted, query.countPlan dialect.withDerivedTables = .ok counted →
        query.countPlan dialect = .error dialect.noDerivedTables) := by
  refine ⟨?_, ?_, ?_⟩
  · intro plan planned inner within
    exact Query.namesTables_of_planned lacking (Query.selectPlan_of_within within ⟨plan, planned⟩)
  · intro counted found
    obtain ⟨body, compiled, -⟩ := Attempt.bind_eq_ok.1 found
    obtain ⟨ref, reads⟩ := Query.exists_table_of_body lacking compiled
    refine ⟨?_, fun plain => ⟨⟨ref, reads⟩, Query.countPlan_sql_of_not_acts reads plain found⟩, ?_⟩
    · intro child member inner within
      have planned := Query.selectPlan_of_inner compiled child member
      exact Query.namesTables_of_planned lacking (Query.selectPlan_of_within within planned)
    · intro acts
      rw [Query.countPlan_of_acts acts] at found
      obtain ⟨plan, planned, rfl⟩ := Attempt.map_eq_ok.1 found
      exact ⟨Query.namesTables_of_planned lacking ⟨plan, planned⟩, plan, planned, rfl⟩
  · intro derived
    exact ⟨fun _ => Query.selectPlan_of_readsDerived lacking derived,
      fun _ => Query.countPlan_of_readsDerived lacking derived⟩

/-- The customers that have ordered, each of them once. -/
def distinctCustomers : Query :=
  { schema := ⟨"shop", [ordersTable.table]⟩
    source := .table ordersTable
    selection := [.column (.named "customer")]
    isDistinct := true }

/-- The same rows through a derived table. -/
def derivedCustomers : Query :=
  let customer : Column := { name := "customer", type := .integer }
  { schema := ⟨"shop", [ordersTable.table]⟩
    source := .derived { table := { name := "customers", columns := [customer] } }
      distinctCustomers }

/-- Orders are selected and counted by customers among distinct ones; by customers from a derived
table they are not. -/
theorem derived_only_to_count_customers :
    plainDialect.derivedTables = false ∧
      Query.ofQuery distinctCustomers "customers" = .ok derivedCustomers ∧
      distinctCustomers.NamesTables plainDialect ∧
      (∃ counted condition, (ordersAmong distinctCustomers).countPlan plainDialect = .ok counted ∧
        counted.sql = "SELECT COUNT(*) FROM " ++
          (ordersAmong distinctCustomers).tableList plainDialect ++
            SelectClauses.optional " WHERE " condition) ∧
      (∃ counted plan, distinctCustomers.countPlan plainDialect = .ok counted ∧
        distinctCustomers.selectPlan plainDialect = .ok plan ∧
        counted.sql = "SELECT COUNT(*) FROM (" ++ plan.statement.sql ++ ") AS count_subquery") ∧
      (ordersAmong derivedCustomers).selectPlan plainDialect =
        .error plainDialect.noDerivedTables ∧
      (ordersAmong derivedCustomers).countPlan plainDialect =
        .error plainDialect.noDerivedTables := by
  obtain ⟨selected, counted, -⟩ :=
    @derived_only_to_count plainDialect rfl (ordersAmong distinctCustomers)
  obtain ⟨-, countedCustomers, -⟩ := @derived_only_to_count plainDialect rfl distinctCustomers
  obtain ⟨-, -, refused⟩ := @derived_only_to_count plainDialect rfl (ordersAmong derivedCustomers)
  have below : distinctCustomers.Within (ordersAmong distinctCustomers) :=
    .inner List.mem_cons_self .refl
  have derived : (ordersAmong derivedCustomers).ReadsDerived :=
    ⟨derivedCustomers, .inner List.mem_cons_self .refl, distinctCustomers, rfl⟩
  obtain ⟨-, plan, planned, wrapped⟩ := (countedCustomers _ rfl).2.2 (Or.inl rfl)
  obtain ⟨-, condition, sql⟩ := (counted _ rfl).2.1 (mt Query.countsRows_iff.2 (by decide))
  exact ⟨rfl, rfl, selected _ rfl _ below, ⟨_, condition, rfl, sql⟩,
    ⟨_, plan, rfl, planned, wrapped⟩, (refused derived).1 _ rfl, (refused derived).2 _ rfl⟩

/-- Counting the distinct customers takes a derived table, which the dialect does not have. -/
theorem distinct_customers_counted :
    plainDialect.derivedTables = false ∧
      (distinctCustomers.countPlan plainDialect).map Statement.sql =
        .ok ("SELECT COUNT(*) FROM (SELECT DISTINCT orders.customer FROM orders)" ++
          " AS count_subquery") := by
  exact ⟨rfl, by decide +kernel⟩

end PreparedSql
