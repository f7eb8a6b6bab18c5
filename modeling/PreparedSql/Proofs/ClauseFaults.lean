import PreparedSql.Proofs.Attempt
import PreparedSql.Proofs.Nested.Within
import PreparedSql.Query.Compile

/-! What the clauses of a query fail for, one by one: a name that is not found, NULL in a comparison
that has no form for it, a broken chain, or something that the dialect lacks. Nothing else is wrong
with a condition in which all queries have plans of their own. -/

namespace PreparedSql

/-- What a clause other than FROM can fail for. -/
def CompileError.OfClause : CompileError → Prop
  | .unknownColumn _ _ | .unknownTable _ | .unboundColumn _ => True
  | .nullComparison _ _ | .brokenChain _ | .unsupported _ _ => True
  | _ => False

/-- If the outcome is a failure, it is one of a clause. -/
def FailsInClause {α : Type} (outcome : Except CompileError α) : Prop :=
  ∀ reason, outcome = .error reason → reason.OfClause

/-- The query in the test, if there is one, has a plan. -/
def Test.InnerPlanned (dialect : Dialect) (test : Test) : Prop :=
  ∀ query, test.query? = some query → ∃ plan, query.selectPlan dialect = .ok plan

namespace FailsInClause

variable {α β : Type}

theorem ok (result : α) : FailsInClause (.ok result) :=
  fun _ => nofun

theorem bind {first : Except CompileError α} {next : α → Except CompileError β}
    (front : FailsInClause first) (back : ∀ value, FailsInClause (next value)) :
    FailsInClause (first >>= next) := by
  intro reason failed
  rcases Attempt.bind_eq_error.1 failed with here | ⟨value, -, later⟩
  · exact front reason here
  · exact back value reason later

theorem map {first : Except CompileError α} (front : FailsInClause first) (f : α → β) :
    FailsInClause (first.map f) :=
  fun reason failed => front reason (Attempt.map_eq_error.1 failed)

theorem mapM {step : α → Except CompileError β} (each : ∀ entry, FailsInClause (step entry))
    (entries : List α) : FailsInClause (entries.mapM step) := by
  intro reason failed
  obtain ⟨entry, -, wrong⟩ := Attempt.mapM_eq_error failed
  exact each entry reason wrong

theorem tableColumn (ref : TableRef) (name : String) : FailsInClause (ref.column name) := by
  apply map
  intro reason failed
  unfold Table.column at failed
  split at failed
  next => cases failed
  next =>
    cases failed
    trivial

theorem resolve (table : Option TableRef) (sources : List TableRef) (spec : ColumnSpec) :
    FailsInClause (spec.resolve table sources) := by
  unfold ColumnSpec.resolve
  split
  next column => exact ok column
  next name =>
    split
    next qualifier rest cut =>
      refine bind ?_ fun source => tableColumn source rest
      intro reason failed
      unfold ColumnSpec.findSource at failed
      split at failed
      next => cases failed
      next =>
        cases failed
        trivial
    next =>
      split
      next ref => exact tableColumn ref name
      next =>
        rintro _ ⟨⟩
        trivial

theorem valueTest (dialect : Dialect) (ignoreCase : Bool) (column : QualifiedColumn)
    (operator : Comparison) (value : Value) :
    FailsInClause (PreparedSql.valueTest dialect ignoreCase column operator value) := by
  cases value with
  | some datum => exact ok _
  | none =>
    cases operator with
    | equal | notEqual => exact ok _
    | _ =>
      rintro _ ⟨⟩
      trivial

theorem listTest (column : QualifiedColumn) (operator : Membership) (values : List Value) :
    FailsInClause (PreparedSql.listTest column operator values) := by
  unfold PreparedSql.listTest
  split
  next => exact ok _
  next =>
    split
    next =>
      rintro _ ⟨⟩
      trivial
    next => exact ok _

theorem unsupported (dialect : Dialect) (feature : String) :
    FailsInClause (dialect.unsupported feature : Except CompileError α) := by
  rintro _ ⟨⟩
  trivial

theorem limiting (dialect : Dialect) (limit offset : Option Nat) :
    FailsInClause (dialect.limiting limit offset) := by
  unfold Dialect.limiting
  split
  next => exact ok _
  next feature _ => exact unsupported dialect feature

theorem checkMembership (dialect : Dialect) (limited : Bool) :
    FailsInClause (dialect.checkMembership limited) := by
  unfold Dialect.checkMembership
  split
  next => exact unsupported dialect _
  next => exact ok ()

theorem checkDerivedTable (dialect : Dialect) : FailsInClause dialect.checkDerivedTable := by
  unfold Dialect.checkDerivedTable
  split
  next => exact ok ()
  next => exact unsupported dialect _

theorem checkChain (joins : List JoinEntry) : FailsInClause (Chain.check joins) := by
  unfold Chain.check
  cases Chain.checkLinks joins 0 joins with
  | ok done => exact ok done
  | error fault =>
    rintro _ ⟨⟩
    trivial

theorem conjunction {predicates : List Predicate}
    {pieces : Except CompileError (List Fragment)} (each : FailsInClause pieces) :
    FailsInClause (PreparedSql.conjunction predicates pieces) := by
  unfold PreparedSql.conjunction
  split
  next => exact ok none
  next => exact map each _

section Clauses

variable (query : Query)

theorem layout : FailsInClause query.layout := by
  unfold Query.layout
  split
  next => exact ok _
  next =>
    refine map (mapM ?_ query.selection) List.flatten
    intro entry
    cases entry with
    | all table => exact ok _
    | column spec => exact map (resolve _ _ spec) _
    | raw sql => exact ok _

theorem groupClause : FailsInClause query.groupClause := by
  unfold Query.groupClause
  split
  next => exact ok _
  next =>
    apply map
    apply mapM
    intro spec
    exact resolve _ _ spec

theorem orderClause (dialect : Dialect) : FailsInClause (query.orderClause dialect) := by
  unfold Query.orderClause
  split
  next => exact ok _
  next =>
    refine bind (mapM ?_ query.ordering) fun _ => ok _
    intro entry
    apply map
    cases entry.target with
    | column spec => exact map (resolve _ _ spec) _
    | raw sql => exact ok sql

theorem selectWith (dialect : Dialect) (body : Body) :
    FailsInClause (query.selectWith dialect body) := by
  apply bind (orderClause query dialect)
  intro ordering
  apply bind (limiting dialect query.rowLimit query.rowOffset)
  intro written
  exact ok _

end Clauses

section Conditions

variable {dialect : Dialect} {scope : Scope}

/-- A query with a plan adds nothing that could fail. -/
theorem nested {query : Query} {plan : SelectPlan}
    (planned : query.selectPlan dialect = .ok plan) :
    FailsInClause (query.nested dialect (query.body dialect)) := by
  rw [query.nested_eq_selectPlan, planned]
  exact ok _

theorem test {test : Test} (planned : test.InnerPlanned dialect) :
    FailsInClause (test.compile dialect scope) := by
  cases test with
  | compareValue spec operator value =>
    exact bind (resolve _ _ spec) fun column => valueTest dialect _ column operator value
  | compareRaw spec operator sql => exact bind (resolve _ _ spec) fun _ => ok _
  | compareQuery spec operator query =>
    obtain ⟨plan, ran⟩ := planned query rfl
    exact bind (resolve _ _ spec) fun _ => bind (nested ran) fun _ => ok _
  | inList spec operator values =>
    exact bind (resolve _ _ spec) fun column => listTest column operator values
  | inQuery spec operator query =>
    obtain ⟨plan, ran⟩ := planned query rfl
    exact bind (resolve _ _ spec) fun _ =>
      bind (checkMembership dialect query.hasLimitOrOffset) fun _ =>
        bind (nested ran) fun _ => ok _
  | raw sql => exact ok _

mutual

theorem predicate {scope : Scope} : (predicate : Predicate) →
    (∀ test ∈ predicate.tests, test.InnerPlanned dialect) →
    FailsInClause (predicate.compile dialect scope)
  | .leaf _ own, planned => test (planned own (List.mem_singleton_self own))
  | .node _ _ children, planned => bind (predicates children planned) fun _ => ok _

theorem predicates {scope : Scope} : (children : List Predicate) →
    (∀ test ∈ Predicate.testsOfAll children, test.InnerPlanned dialect) →
    FailsInClause (Predicate.compileAll dialect scope children)
  | [], _ => ok _
  | child :: children, planned => by
      obtain ⟨here, later⟩ := List.forall_mem_append.1 planned
      exact bind (predicate child here) fun _ => bind (predicates children later) fun _ => ok _

end

theorem source {source : Source}
    (planned : ∀ query, source.query? = some query → ∃ plan, query.selectPlan dialect = .ok plan) :
    FailsInClause (source.compile dialect) := by
  cases source with
  | table ref => exact ok _
  | derived ref query =>
    obtain ⟨plan, ran⟩ := planned query rfl
    exact bind (checkDerivedTable dialect) fun _ => bind (nested ran) fun _ => ok _

variable {query : Query}

theorem body (unjoined : query.joinedPrimary? = none)
    (planned : ∀ child ∈ query.innerQueries, ∃ plan, child.selectPlan dialect = .ok plan) :
    FailsInClause (query.body dialect) := by
  have conditions : ∀ test ∈ query.tests, test.InnerPlanned dialect := by
    intro test member child own
    exact planned child (Query.mem_innerQueries.2 (Or.inr ⟨test, member, own⟩))
  obtain ⟨filters, havings⟩ := List.forall_mem_append.1 conditions
  rw [Query.body_eq]
  apply bind (checkChain query.joins)
  intro _
  apply bind (layout query)
  intro slots
  apply bind (source fun child own => planned child (Query.mem_innerQueries.2 (Or.inl own)))
  intro origin
  have introduced : FailsInClause (query.fromClause dialect origin) := by
    unfold Query.fromClause
    rw [unjoined]
    exact ok _
  apply bind introduced
  intro joined
  apply bind (conjunction (predicates query.filters filters))
  intro filter
  apply bind (groupClause query)
  intro grouping
  apply bind (conjunction (predicates query.havings havings))
  intro having
  exact ok _

/-- A SELECT whose inner queries have plans fails for one of its clauses, unless an explicit join
introduces the primary source once more. -/
theorem selectPlan (unjoined : query.joinedPrimary? = none)
    (planned : ∀ child ∈ query.innerQueries, ∃ plan, child.selectPlan dialect = .ok plan) :
    FailsInClause (query.selectPlan dialect) :=
  bind (body unjoined planned) fun written => bind (selectWith query dialect written) fun _ => ok _

end Conditions

end FailsInClause

end PreparedSql
