import PreparedSql.Proofs.Attempt
import PreparedSql.Query.Reading

/-! The clauses of a SELECT: its text is that of the clauses in their order, and everything but
the WHERE condition is known from the query alone. -/

namespace PreparedSql

structure SelectClauses where
  list : String
  origin : String
  condition : Option String
  grouping : String
  having : Option String
  ordering : String
  limiting : String

namespace SelectClauses

def optional (keyword : String) : Option String → String
  | some condition => keyword ++ condition
  | none => ""

def sql (clauses : SelectClauses) : String :=
  "SELECT " ++ clauses.list ++ " FROM " ++ clauses.origin ++
    optional " WHERE " clauses.condition ++ clauses.grouping ++
    optional " HAVING " clauses.having ++ clauses.ordering ++ clauses.limiting

end SelectClauses

/-- Conditions under AND, if there are any. -/
def joinedCondition : List String → Option String
  | [] => none
  | conditions => some (" AND ".intercalate conditions)

theorem conditionClause_sql (keyword : String) (conditions : List Fragment) :
    (conditionClause keyword conditions).sql =
      SelectClauses.optional keyword (joinedCondition (conditions.map Fragment.sql)) := by
  cases conditions <;> rfl

theorem joinedCondition_toList (condition : Option Fragment) :
    joinedCondition (condition.toList.map Fragment.sql) = condition.map Fragment.sql := by
  cases condition with
  | none => rfl
  | some fragment => simp [joinedCondition]

/-- There is no condition just when no test is among the predicates. -/
theorem conjunction_isNone {predicates : List Predicate}
    {pieces : Except CompileError (List Fragment)} {condition : Option Fragment}
    (compiled : conjunction predicates pieces = .ok condition) :
    condition.isNone = true ↔ Predicate.allEmpty predicates = true := by
  unfold conjunction at compiled
  split at compiled
  next hollow => cases compiled; simp [hollow]
  next some =>
    obtain ⟨fragments, -, rfl⟩ := Attempt.map_eq_ok.1 compiled
    simp [some]

namespace Query

/-- The clauses of the query other than WHERE. -/
structure HasClauses (query : Query) (dialect : Dialect) (clauses : SelectClauses) : Prop where
  list : ∃ layout, query.layout = .ok layout ∧ clauses.list = query.selectList layout
  origin : ∃ source introduced, query.source.compile dialect = .ok source ∧
    query.fromClause dialect source = .ok introduced ∧ clauses.origin = introduced.sql
  grouping : query.groupClause = .ok clauses.grouping
  having : ∃ having, conjunction query.havings
      (Predicate.compileAll dialect query.scope query.havings) = .ok having ∧
    clauses.having = having.map Fragment.sql
  ordering : query.orderClause dialect = .ok clauses.ordering
  limiting : dialect.limiting query.rowLimit query.rowOffset = .ok clauses.limiting

/-- What a body is made of. -/
theorem body_parts {query : Query} {dialect : Dialect} {body : Body}
    (compiled : query.body dialect = .ok body) :
    ∃ source introduced filter grouping having,
      query.source.compile dialect = .ok source ∧
      query.fromClause dialect source = .ok introduced ∧
      conjunction query.filters (Predicate.compileAll dialect query.scope query.filters) =
        .ok filter ∧
      query.groupClause = .ok grouping ∧
      conjunction query.havings (Predicate.compileAll dialect query.scope query.havings) =
        .ok having ∧
      query.layout = .ok body.layout ∧
      body.clauses = .text " FROM " ++ introduced ++
        conditionClause " WHERE " ((query.implicitConditions dialect).map .text ++ filter.toList) ++
        .text grouping ++ conditionClause " HAVING " having.toList ∧
      body.hasWhere = !((query.implicitConditions dialect).map Fragment.text ++
        filter.toList).isEmpty := by
  rw [body_eq] at compiled
  obtain ⟨-, -, compiled⟩ := Attempt.bind_eq_ok.1 compiled
  obtain ⟨layout, slots, compiled⟩ := Attempt.bind_eq_ok.1 compiled
  obtain ⟨source, started, compiled⟩ := Attempt.bind_eq_ok.1 compiled
  obtain ⟨introduced, joined, compiled⟩ := Attempt.bind_eq_ok.1 compiled
  obtain ⟨filter, filtered, compiled⟩ := Attempt.bind_eq_ok.1 compiled
  obtain ⟨grouping, grouped, compiled⟩ := Attempt.bind_eq_ok.1 compiled
  obtain ⟨having, held, finished⟩ := Attempt.bind_eq_ok.1 compiled
  cases Attempt.pure_eq_ok.1 finished
  exact ⟨source, introduced, filter, grouping, having, started, joined, filtered, grouped, held,
    slots, rfl, rfl⟩

/-- The implicit joins and the filters make up the WHERE condition of a SELECT. -/
theorem selectPlan_clauses {query : Query} {dialect : Dialect} {plan : SelectPlan}
    (planned : query.selectPlan dialect = .ok plan) :
    ∃ clauses filter, query.HasClauses dialect clauses ∧ plan.statement.sql = clauses.sql ∧
      plan.statement.hasWhere = clauses.condition.isSome ∧
      conjunction query.filters (Predicate.compileAll dialect query.scope query.filters) =
        .ok filter ∧
      clauses.condition = joinedCondition
        (query.implicitConditions dialect ++ filter.toList.map Fragment.sql) := by
  obtain ⟨body, compiled, rest⟩ := Attempt.bind_eq_ok.1 planned
  obtain ⟨fragment, selected, done⟩ := Attempt.bind_eq_ok.1 rest
  obtain ⟨ordering, ordered, rest⟩ := Attempt.bind_eq_ok.1 selected
  obtain ⟨limiting, limited, written⟩ := Attempt.bind_eq_ok.1 rest
  cases Attempt.pure_eq_ok.1 written
  cases Attempt.pure_eq_ok.1 done
  obtain ⟨source, introduced, filter, grouping, having, started, joined, filtered, grouped, held,
    slots, text, present⟩ := body_parts compiled
  have texts : (((query.implicitConditions dialect).map Fragment.text ++ filter.toList).map
      Fragment.sql) = query.implicitConditions dialect ++ filter.toList.map Fragment.sql := by
    simp only [List.map_append, List.map_map, Function.comp_def, Fragment.sql_text, List.map_id']
  let clauses : SelectClauses :=
    { list := query.selectList body.layout
      origin := introduced.sql
      condition := joinedCondition
        (query.implicitConditions dialect ++ filter.toList.map Fragment.sql)
      grouping := grouping
      having := having.map Fragment.sql
      ordering := ordering
      limiting := limiting }
  have has : query.HasClauses dialect clauses :=
    { list := ⟨body.layout, slots, rfl⟩
      origin := ⟨source, introduced, started, joined, rfl⟩
      grouping := grouped
      having := ⟨having, held, rfl⟩
      ordering := ordered
      limiting := limited }
  refine ⟨clauses, filter, has, ?_, ?_, filtered, rfl⟩
  · show _ = SelectClauses.sql _
    unfold SelectClauses.sql
    simp only [clauses, ← texts, ← joinedCondition_toList, Fragment.sql_append,
      Fragment.sql_text, text, conditionClause_sql, String.append_assoc]
  · show body.hasWhere = (joinedCondition _).isSome
    rw [present, ← texts]
    cases (query.implicitConditions dialect).map Fragment.text ++ filter.toList <;> rfl

end Query

end PreparedSql
