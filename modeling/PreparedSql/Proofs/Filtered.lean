import PreparedSql.Proofs.Bounded.Mutations
import PreparedSql.Proofs.Counted

/-! The statements of one query over a table reach the same rows: SELECT, COUNT, UPDATE and DELETE
have the same condition with the same parameters, though each of them sets up where names are looked
up for itself, and so does a predicate that is compiled on its own. -/

namespace PreparedSql

namespace Predicate

mutual

/-- No predicate in the tree looks names up on a table of its own. -/
def ownsNoTable : Predicate → Bool
  | .leaf settings _ => settings.table.isNone
  | .node settings _ children => settings.table.isNone && allOwnNoTable children

def allOwnNoTable : List Predicate → Bool
  | [] => true
  | child :: children => child.ownsNoTable && allOwnNoTable children

end

end Predicate

/-- Both treat case alike and find the same column for every name. -/
structure Scope.Agrees (scope other : Scope) : Prop where
  ignoreCase : scope.ignoreCase = other.ignoreCase
  resolve : ∀ spec, scope.resolve spec = other.resolve spec

namespace Scope

variable {scope other : Scope}

theorem enter_of_none {settings : NodeSettings} (plain : settings.table.isNone = true)
    (scope : Scope) :
    scope.enter settings =
      { scope with ignoreCase := settings.ignoreCase.getD scope.ignoreCase } := by
  rw [Option.isNone_iff_eq_none] at plain
  unfold enter
  rw [plain, Option.none_or]

theorem Agrees.enter (agrees : scope.Agrees other) {settings : NodeSettings}
    (plain : settings.table.isNone = true) :
    (scope.enter settings).Agrees (other.enter settings) where
  ignoreCase := by
    rw [enter_of_none plain, enter_of_none plain, agrees.ignoreCase]
  resolve := by
    rw [enter_of_none plain, enter_of_none plain]
    exact agrees.resolve

/-- A table in scope finds the same names whether it is one of the sources besides or not. -/
theorem agrees_alone (table : TableRef) (flag : Bool) :
    Agrees { ignoreCase := flag, table := some table }
      { ignoreCase := flag, table := some table, sources := [table] } where
  ignoreCase := rfl
  resolve := by
    intro spec
    cases spec with
    | known column => rfl
    | named name =>
      unfold Scope.resolve ColumnSpec.resolve
      dsimp only
      split
      next qualifier rest _ =>
        have found : ColumnSpec.findSource qualifier (some table) [] =
            ColumnSpec.findSource qualifier (some table) [table] := by
          unfold ColumnSpec.findSource
          cases label : Text.sameIgnoringCase table.label qualifier <;> simp [label]
        rw [found]
      next => rfl

end Scope

variable {dialect : Dialect}

/-- A test depends on the scope by the column it is about, and by whether case is ignored. -/
theorem Test.compile_agrees {scope other : Scope} (agrees : scope.Agrees other) (test : Test) :
    test.compile dialect scope = test.compile dialect other := by
  cases test with
  | raw sql => rfl
  | compareValue | compareRaw | compareQuery | inList | inQuery =>
    simp only [Test.compile, agrees.resolve, agrees.ignoreCase]

namespace Predicate

mutual

/-- Where no table of its own comes between, a predicate compiles alike in scopes that agree. -/
theorem compile_agrees {scope other : Scope} (agrees : scope.Agrees other) :
    (predicate : Predicate) → predicate.ownsNoTable = true →
      predicate.compile dialect scope = predicate.compile dialect other
  | .leaf _ test, plain => test.compile_agrees (agrees.enter plain)
  | .node _ _ children, plain => by
      obtain ⟨here, below⟩ := (Bool.and_eq_true _ _).mp plain
      unfold Predicate.compile
      rw [compileAll_agrees (agrees.enter here) children below]

theorem compileAll_agrees {scope other : Scope} (agrees : scope.Agrees other) :
    (children : List Predicate) → allOwnNoTable children = true →
      compileAll dialect scope children = compileAll dialect other children
  | [], _ => rfl
  | child :: children, plain => by
      obtain ⟨here, later⟩ := (Bool.and_eq_true _ _).mp plain
      unfold Predicate.compileAll
      rw [child.compile_agrees agrees here, compileAll_agrees agrees children later]

end

/-- Built on its own under a table, a predicate is compiled as it is where this table is the only
source. -/
theorem build_inTable {predicate : Predicate} (test : predicate.tests ≠ [])
    (plain : predicate.ownsNoTable = true) (table : TableRef) :
    (predicate.inTable table).build dialect =
      predicate.compile dialect { table := some table, sources := [table] } := by
  have present : predicate.isEmpty = false := Bool.eq_false_iff.2 (mt predicate.isEmpty_iff.1 test)
  have alone (settings : NodeSettings) (own : settings.table.isNone = true) :
      (({} : Scope).enter { settings with table := some table }).Agrees
        (({ table := some table, sources := [table] } : Scope).enter settings) := by
    rw [Scope.enter_of_none own]
    exact Scope.agrees_alone table (settings.ignoreCase.getD false)
  unfold build
  cases predicate with
  | leaf settings own =>
    exact own.compile_agrees (alone settings plain)
  | node settings connective children =>
    obtain ⟨here, below⟩ := (Bool.and_eq_true _ _).mp plain
    have still : ((Predicate.node settings connective children).inTable table).isEmpty = false :=
      present
    rw [still]
    simp only [Bool.false_eq_true, if_false, inTable, Predicate.compile]
    rw [compileAll_agrees (alone settings here) children below]

end Predicate

namespace Query

variable {query : Query} {table : Table}

/-- The query reads from a table under its own name, and from nothing else. -/
structure ReadsOnly (query : Query) (table : Table) : Prop where
  source : query.source = .table { table }
  joins : query.joins = []

namespace ReadsOnly

theorem primary (reads : query.ReadsOnly table) : query.primary = { table } :=
  congrArg Source.ref reads.source

theorem mutationTarget (reads : query.ReadsOnly table) (mutation : Mutation) :
    query.mutationTarget mutation = .ok { table } := by
  unfold Query.mutationTarget
  rw [reads.source, reads.joins]
  rfl

/-- The conditions of a SELECT look names up where those of a mutation do. -/
theorem scope (reads : query.ReadsOnly table) : query.scope = query.mutationScope { table } := by
  unfold Query.scope Query.mutationScope Query.sources
  rw [reads.primary, reads.joins]
  rfl

theorem compile_source (reads : query.ReadsOnly table) (dialect : Dialect) :
    query.source.compile dialect = .ok (.text table.name) := by
  rw [reads.source]
  rfl

theorem fromClause (reads : query.ReadsOnly table) (dialect : Dialect) :
    query.fromClause dialect (.text table.name) = .ok (.text table.name) := by
  have unjoined : query.joinedPrimary? = none := by
    unfold joinedPrimary? explicitJoins
    rw [reads.joins]
    rfl
  have alone : query.listedTables = [] := by
    unfold listedTables implicitTables
    rw [reads.joins]
    rfl
  have clauses : query.joinClauses dialect = [] := by
    unfold joinClauses
    rw [reads.joins]
    rfl
  unfold Query.fromClause
  rw [unjoined, alone, clauses]
  refine congrArg Except.ok (Fragment.ext ?_ rfl)
  simp

/-- The clauses from FROM on, when some test is among the filters. -/
theorem body (reads : query.ReadsOnly table)
    (test : ∃ predicate ∈ query.filters, predicate.tests ≠ []) (dialect : Dialect) :
    query.body dialect = (do
      let layout ← query.layout
      let condition ← query.condition.compile dialect query.scope
      let grouping ← query.groupClause
      let having ← conjunction query.havings
        (Predicate.compileAll dialect query.scope query.havings)
      return {
        layout
        clauses := .text (" FROM " ++ table.name ++ " WHERE ") ++ condition ++ .text grouping ++
          conditionClause " HAVING " having.toList
        hasWhere := true }) := by
  have filtered : conjunction query.filters
      (Predicate.compileAll dialect query.scope query.filters) =
        (query.condition.compile dialect query.scope).map some := by
    rw [reads.scope]
    exact mutationCondition_of_test test
  have unlinked : Chain.check query.joins = .ok () := by
    rw [reads.joins]
    rfl
  have implicit : query.implicitConditions dialect = [] := by
    unfold implicitConditions
    rw [reads.joins]
    rfl
  rw [body_eq, filtered, unlinked, reads.compile_source, implicit]
  show (query.layout >>= _) = _
  refine Attempt.bind_congr fun layout => ?_
  show (query.fromClause dialect (.text table.name) >>= _) = _
  rw [reads.fromClause]
  show ((query.condition.compile dialect query.scope).map some >>= _) = _
  rw [Attempt.bind_map]
  refine Attempt.bind_congr fun condition => Attempt.bind_congr fun grouping =>
    Attempt.bind_congr fun having => congrArg Except.ok ?_
  rw [Body.mk.injEq]
  refine ⟨rfl, Fragment.ext ?_ ?_, rfl⟩
  · simp [conditionClause, String.append_assoc]
  · simp [conditionClause]

end ReadsOnly

/-- How the statements of a query over a table are filtered, given what its filters compile to. A
mutation is filtered as the rows are that a SELECT gives or a COUNT counts, with the same text and
the same parameters behind its own. -/
structure FiltersAlike (query : Query) (table : Table) (dialect : Dialect)
    (filter : Except CompileError Fragment) : Prop where
  delete : query.deletePlan dialect = filter.map fun condition =>
    { sql := "DELETE FROM " ++ table.name ++ " WHERE " ++ condition.sql
      binds := condition.binds
      kind := .delete
      table := table.name
      hasWhere := true }
  update : ∀ assignments assigned,
    resolveAssignments .update { table } assignments = .ok assigned →
      query.updatePlan assignments dialect = filter.map fun condition =>
        { sql := "UPDATE " ++ table.name ++ " SET " ++
            ", ".intercalate (assigned.map fun entry => entry.setClause.sql) ++
            " WHERE " ++ condition.sql
          binds :=
            assigned.filterMap (fun entry => Bind.ofValue? entry.column.type entry.value) ++
              condition.binds
          kind := .update
          table := table.name
          hasWhere := true }
  /-- Rows are counted directly once the SELECT list is known. -/
  count : ¬ query.ActsOnRows → query.countPlan dialect = (do
    let _ ← query.layout
    filter.map fun condition =>
      { sql := "SELECT COUNT(*) FROM " ++ table.name ++ " WHERE " ++ condition.sql
        binds := condition.binds
        kind := .count
        table := table.name
        hasWhere := true })
  select : ∀ plan, query.selectPlan dialect = .ok plan →
    ∃ condition rest binds, filter = .ok condition ∧
      plan.statement.sql = "SELECT " ++ query.selectList plan.layout ++ " FROM " ++ table.name ++
        " WHERE " ++ condition.sql ++ rest ∧
      plan.statement.binds = condition.binds ++ binds
  /-- The filters are what fails first behind the SELECT list. -/
  failed : ∀ layout reason, query.layout = .ok layout → filter = .error reason →
    query.selectPlan dialect = .error reason ∧ query.countPlan dialect = .error reason

theorem setClause_binds (assigned : List Assigned) :
    (Fragment.join ", " (assigned.map Assigned.setClause)).binds =
      assigned.filterMap fun entry => Bind.ofValue? entry.column.type entry.value := by
  rw [Fragment.binds_join, List.flatMap_map, List.filterMap_eq_flatMap_toList]
  congr 1
  funext entry
  obtain ⟨column, value⟩ := entry
  cases value <;> rfl

namespace ReadsOnly

variable (reads : query.ReadsOnly table)
  (test : ∃ predicate ∈ query.filters, predicate.tests ≠ [])

include reads test

theorem countPlan (plain : ¬ query.ActsOnRows) (dialect : Dialect) :
    query.countPlan dialect = (do
      let _ ← query.layout
      (query.condition.compile dialect query.scope).map fun condition =>
        { sql := "SELECT COUNT(*) FROM " ++ table.name ++ " WHERE " ++ condition.sql
          binds := condition.binds
          kind := .count
          table := table.name
          hasWhere := true }) := by
  rw [countPlan_of_not_acts plain, reads.body test, Attempt.map_bind]
  simp only [ActsOnRows, not_or, ne_eq, not_not] at plain
  obtain ⟨-, noGroups, noHavings, -, -⟩ := plain
  have ungrouped : query.groupClause = .ok "" := by
    unfold groupClause
    rw [noGroups]
  have unconditional : conjunction query.havings
      (Predicate.compileAll dialect query.scope query.havings) = .ok none := by
    rw [noHavings]
    rfl
  have label : query.primary.label = table.name := by
    rw [reads.primary]
    rfl
  refine Attempt.bind_congr fun layout => ?_
  rw [ungrouped, unconditional, label]
  cases query.condition.compile dialect query.scope with
  | error reason => rfl
  | ok condition =>
    refine congrArg Except.ok ?_
    rw [Statement.mk.injEq]
    refine ⟨?_, ?_, rfl, rfl, rfl⟩
    · have opening : "SELECT COUNT(*) FROM " = "SELECT COUNT(*)" ++ " FROM " := rfl
      have unheld : (conditionClause " HAVING " []).sql = "" := rfl
      simp only [Fragment.sql_append, Fragment.sql_text, Option.toList_none, unheld, opening,
        String.append_empty, String.append_assoc]
    · simp [conditionClause]

theorem selectPlan {plan : SelectPlan} (planned : query.selectPlan dialect = .ok plan) :
    ∃ condition rest binds, query.condition.compile dialect query.scope = .ok condition ∧
      plan.statement.sql = "SELECT " ++ query.selectList plan.layout ++ " FROM " ++ table.name ++
        " WHERE " ++ condition.sql ++ rest ∧
      plan.statement.binds = condition.binds ++ binds := by
  obtain ⟨body, compiled, planned⟩ := Attempt.bind_eq_ok.1 planned
  obtain ⟨fragment, selected, done⟩ := Attempt.bind_eq_ok.1 planned
  cases Attempt.pure_eq_ok.1 done
  obtain ⟨ordering, -, selected⟩ := Attempt.bind_eq_ok.1 selected
  obtain ⟨limiting, -, written⟩ := Attempt.bind_eq_ok.1 selected
  cases Attempt.pure_eq_ok.1 written
  rw [reads.body test] at compiled
  obtain ⟨layout, -, compiled⟩ := Attempt.bind_eq_ok.1 compiled
  obtain ⟨condition, filtered, compiled⟩ := Attempt.bind_eq_ok.1 compiled
  obtain ⟨grouping, -, compiled⟩ := Attempt.bind_eq_ok.1 compiled
  obtain ⟨having, -, finished⟩ := Attempt.bind_eq_ok.1 compiled
  cases Attempt.pure_eq_ok.1 finished
  refine ⟨condition, grouping ++ (conditionClause " HAVING " having.toList).sql ++
    (ordering ++ limiting), (conditionClause " HAVING " having.toList).binds, filtered, ?_, ?_⟩
  · simp [String.append_assoc]
  · simp

/-- Where the SELECT list is known, the filters are what fails first. -/
theorem body_of_error {layout : List Slot} {reason : CompileError}
    (listed : query.layout = .ok layout)
    (failing : query.condition.compile dialect query.scope = .error reason) :
    query.body dialect = .error reason := by
  rw [reads.body test, listed, failing]
  rfl

theorem filtersAlike (dialect : Dialect) :
    query.FiltersAlike table dialect (query.condition.compile dialect query.scope) where
  delete := by
    rw [deletePlan_eq_finishWhere (reads.mutationTarget .delete), finishWhere_of_test test,
      reads.scope]
    rfl
  update := by
    intro assignments assigned resolved
    obtain ⟨some, found⟩ := resolveAssignments_eq_ok_iff.1 resolved
    rw [updatePlan_eq_finishWhere (reads.mutationTarget .update) some found,
      finishWhere_of_test test, reads.scope, ← setClause_binds, Fragment.sql_append,
      Fragment.binds_append, Fragment.sql_join, List.map_map]
    rfl
  count := fun plain => reads.countPlan test plain dialect
  select := fun plan => reads.selectPlan test
  failed := by
    intro layout reason listed failing
    have failed := reads.body_of_error test listed failing
    unfold Query.selectPlan Query.countPlan
    rw [failed]
    exact ⟨rfl, rfl⟩

end ReadsOnly

/-- A single filter is compiled as it is. -/
theorem condition_compile_of_single {predicate : Predicate} (single : query.filters = [predicate])
    (dialect : Dialect) (scope : Scope) :
    query.condition.compile dialect scope = predicate.compile dialect scope := by
  rw [condition_compile, single]
  unfold Predicate.compileAll Predicate.compileAll
  cases predicate.compile dialect scope <;> rfl

end Query

/-- Every statement of a query over one table has the condition that its filters compile to, or
fails with them. If there is one filter, and neither the query nor a part of the filter sets up how
names are looked up or how case is treated, then this is what the filter builds on its own. -/
theorem statements_filter_alike {query : Query} {table : Table} (reads : query.ReadsOnly table)
    (test : ∃ predicate ∈ query.filters, predicate.tests ≠ []) (dialect : Dialect) :
    query.FiltersAlike table dialect (query.condition.compile dialect query.scope) ∧
      ∀ predicate, query.filters = [predicate] → query.foldsCase = false →
        predicate.ownsNoTable = true →
          (predicate.inTable query.primary).build dialect =
            query.condition.compile dialect query.scope := by
  refine ⟨reads.filtersAlike test dialect, ?_⟩
  intro predicate single plain own
  obtain ⟨other, member, some⟩ := test
  rw [single] at member
  cases List.mem_singleton.1 member
  rw [Query.condition_compile_of_single single, predicate.build_inTable some own]
  unfold Query.scope Query.sources
  rw [plain, reads.joins]
  rfl

def essaysTable : Table :=
  { name := "essays"
    columns :=
      [{ name := "id", type := .integer }, { name := "title", field := "Title", type := .varchar },
       { name := "parent_id", field := "ParentId", type := .integer }] }

/-- Names in two cases, and a query of the same table under an alias. -/
def essayFilter : Predicate :=
  .any [.compare (.named "Essays.TITLE") .like "a%",
    .inQuery (.named "ParentId") .isIn
      { schema := ⟨"", [essaysTable]⟩
        source := .table { table := essaysTable, aliasName := some "p" }
        filters := [.compare (.named "p.id") .greater (7 : Int64)]
        selection := [.column (.named "id")] }]

/-- The essays that pass a filter, the latest first. -/
def essaysBy (filter : Predicate) : Query :=
  { schema := ⟨"", [essaysTable]⟩
    source := .table { table := essaysTable }
    filters := [filter]
    ordering := [⟨.column (.named "id"), .descending⟩] }

def essaySettings : List Assignment :=
  [⟨.named "ParentId", none⟩, ⟨.named "title", some (.text "b")⟩]

theorem statements_filter_alike_essays :
    ∃ filter plan, (essaysBy essayFilter).ReadsOnly essaysTable ∧
      (∃ predicate ∈ (essaysBy essayFilter).filters, predicate.tests ≠ []) ∧
      (essayFilter.inTable { table := essaysTable }).build .postgres = .ok filter ∧
      filter.sql = "(essays.title LIKE ? OR essays.parent_id IN " ++
        "(SELECT p.id FROM essays p WHERE p.id > ?))" ∧
      (essaysBy essayFilter).deletePlan .postgres = .ok
        ⟨"DELETE FROM essays WHERE " ++ filter.sql, filter.binds, .delete, "essays", true⟩ ∧
      (essaysBy essayFilter).updatePlan essaySettings .postgres = .ok
        ⟨"UPDATE essays SET parent_id = NULL, title = ? WHERE " ++ filter.sql,
          ⟨.varchar, .text "b"⟩ :: filter.binds, .update, "essays", true⟩ ∧
      (essaysBy essayFilter).selectPlan .postgres = .ok plan ∧
      (∃ rest, plan.statement.sql =
        "SELECT essays.id, essays.title, essays.parent_id FROM essays WHERE " ++ filter.sql ++
          rest) ∧
      (essaysBy (.isNull (.named "author"))).deletePlan .postgres =
        .error (.unknownColumn "essays" "author") ∧
      (essaysBy (.isNull (.named "author"))).countPlan .postgres =
        .error (.unknownColumn "essays" "author") := by
  have reads (filter : Predicate) : (essaysBy filter).ReadsOnly essaysTable := ⟨rfl, rfl⟩
  have test : ∃ predicate ∈ (essaysBy essayFilter).filters, predicate.tests ≠ [] :=
    ⟨essayFilter, List.mem_cons_self, List.cons_ne_nil _ _⟩
  have lost : ∃ predicate ∈ (essaysBy (.isNull (.named "author"))).filters,
      predicate.tests ≠ [] :=
    ⟨_, List.mem_cons_self, List.cons_ne_nil _ _⟩
  obtain ⟨alike, alone⟩ := statements_filter_alike (reads essayFilter) test .postgres
  obtain ⟨unlike, -⟩ := statements_filter_alike (reads _) lost .postgres
  obtain ⟨condition, rest, binds, ran, sql, -⟩ := alike.select _ rfl
  have built := (alone essayFilter rfl rfl rfl).trans ran
  have deleted := alike.delete
  have updated := alike.update essaySettings _ rfl
  rw [ran] at deleted updated
  refine ⟨condition, _, reads essayFilter, test, built, ?_, deleted, updated, rfl, ⟨rest, sql⟩,
    unlike.delete, (unlike.failed _ _ rfl rfl).2⟩
  cases ran
  decide +kernel

end PreparedSql
