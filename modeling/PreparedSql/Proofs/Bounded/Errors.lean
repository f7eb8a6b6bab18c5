import PreparedSql.Proofs.ClauseFaults

/-! Compiling never refuses: whatever else is wrong with a query, a missing condition is found
only when an UPDATE or DELETE is finished. -/

namespace PreparedSql

/-- The outcome is not the refusal of an unbounded statement. -/
def Unrefused {α : Type} (outcome : Except CompileError α) : Prop :=
  ∀ mutation table, outcome ≠ .error (.unboundedMutation mutation table)

namespace Unrefused

variable {α β : Type}

theorem ok (result : α) : Unrefused (.ok result) :=
  fun _ _ => nofun

theorem bind {first : Except CompileError α} {next : α → Except CompileError β}
    (front : Unrefused first) (back : ∀ value, Unrefused (next value)) :
    Unrefused (first >>= next) := by
  intro mutation table failed
  rcases Attempt.bind_eq_error.1 failed with here | ⟨value, -, later⟩
  · exact front mutation table here
  · exact back value mutation table later

theorem map {first : Except CompileError α} (front : Unrefused first) (f : α → β) :
    Unrefused (first.map f) := by
  intro mutation table failed
  exact front mutation table (Attempt.map_eq_error.1 failed)

theorem of_clause {outcome : Except CompileError α} (fails : FailsInClause outcome) :
    Unrefused outcome :=
  fun mutation table failed => fails (.unboundedMutation mutation table) failed

theorem fromClause (query : Query) (dialect : Dialect) (origin : Fragment) :
    Unrefused (query.fromClause dialect origin) := by
  intro mutation table failed
  unfold Query.fromClause at failed
  split at failed <;> cases failed

theorem conjunction {predicates : List Predicate}
    {pieces : Except CompileError (List Fragment)} (each : Unrefused pieces) :
    Unrefused (PreparedSql.conjunction predicates pieces) := by
  unfold PreparedSql.conjunction
  split
  next => exact ok none
  next => exact map each _

variable {query : Query}

/-- The body of a query whose source and conditions do not refuse. -/
theorem body {dialect : Dialect} (source : Unrefused (query.source.compile dialect))
    (filters : ∀ scope, Unrefused (Predicate.compileAll dialect scope query.filters))
    (havings : ∀ scope, Unrefused (Predicate.compileAll dialect scope query.havings)) :
    Unrefused (query.body dialect) := by
  rw [Query.body_eq]
  apply bind (of_clause (.checkChain query.joins))
  intro _
  apply bind (of_clause (.layout query))
  intro slots
  apply bind source
  intro origin
  apply bind (fromClause query dialect origin)
  intro introduced
  apply bind (conjunction (filters query.scope))
  intro filter
  apply bind (of_clause (.groupClause query))
  intro grouping
  apply bind (conjunction (havings query.scope))
  intro having
  exact ok _

theorem nested {dialect : Dialect} (inner : Unrefused (query.body dialect)) :
    Unrefused (query.nested dialect (query.body dialect)) :=
  bind inner fun body => of_clause (.selectWith query dialect body)

end Unrefused

mutual

theorem Test.compile_unrefused (dialect : Dialect) (scope : Scope) : (test : Test) →
    Unrefused (test.compile dialect scope)
  | .compareValue spec operator value => by
      apply Unrefused.bind (.of_clause (.resolve scope.table scope.sources spec))
      intro column
      exact .of_clause (.valueTest dialect scope.ignoreCase column operator value)
  | .compareRaw spec _ _ => by
      apply Unrefused.bind (.of_clause (.resolve scope.table scope.sources spec))
      intro column
      exact .ok _
  | .compareQuery spec _ query => by
      apply Unrefused.bind (.of_clause (.resolve scope.table scope.sources spec))
      intro column
      apply Unrefused.bind (.nested (query.body_unrefused dialect))
      intro nested
      exact .ok _
  | .inList spec operator values => by
      apply Unrefused.bind (.of_clause (.resolve scope.table scope.sources spec))
      intro column
      exact .of_clause (.listTest column operator values)
  | .inQuery spec _ query => by
      apply Unrefused.bind (.of_clause (.resolve scope.table scope.sources spec))
      intro column
      apply Unrefused.bind (.of_clause (.checkMembership dialect query.hasLimitOrOffset))
      intro _
      apply Unrefused.bind (.nested (query.body_unrefused dialect))
      intro nested
      exact .ok _
  | .raw _ => .ok _

theorem Predicate.compile_unrefused (dialect : Dialect) (scope : Scope) :
    (predicate : Predicate) → Unrefused (predicate.compile dialect scope)
  | .leaf settings test => test.compile_unrefused dialect (scope.enter settings)
  | .node settings _ children => by
      apply Unrefused.bind (Predicate.compileAll_unrefused dialect (scope.enter settings) children)
      intro pieces
      exact .ok _

theorem Predicate.compileAll_unrefused (dialect : Dialect) (scope : Scope) :
    (children : List Predicate) → Unrefused (Predicate.compileAll dialect scope children)
  | [] => .ok _
  | child :: children => by
      apply Unrefused.bind (child.compile_unrefused dialect scope)
      intro piece
      apply Unrefused.bind (Predicate.compileAll_unrefused dialect scope children)
      intro pieces
      exact .ok _

theorem Source.compile_unrefused (dialect : Dialect) : (source : Source) →
    Unrefused (source.compile dialect)
  | .table _ => .ok _
  | .derived _ query => by
      apply Unrefused.bind (.of_clause (.checkDerivedTable dialect))
      intro _
      apply Unrefused.bind (.nested (query.body_unrefused dialect))
      intro nested
      exact .ok _

theorem Query.body_unrefused (dialect : Dialect) : (query : Query) →
    Unrefused (query.body dialect)
  | { source, filters, havings, .. } =>
    .body (source.compile_unrefused dialect)
      (fun scope => Predicate.compileAll_unrefused dialect scope filters)
      (fun scope => Predicate.compileAll_unrefused dialect scope havings)

end

end PreparedSql
