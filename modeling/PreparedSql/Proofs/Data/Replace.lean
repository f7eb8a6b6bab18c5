import PreparedSql.Proofs.Attempt
import PreparedSql.Query.Reading
import PreparedSql.Query.Writing

/-! Replacing the data of a query, at every depth: each datum becomes another one, NULL stays
NULL, and nothing else changes. Compiling a query whose data are replaced gives the same text,
with the parameters replaced in the same way. -/

namespace PreparedSql

mutual

def Test.mapData (f : Datum → Datum) : Test → Test
  | .compareValue column operator value => .compareValue column operator (value.map f)
  | .compareRaw column operator sql => .compareRaw column operator sql
  | .compareQuery column operator query => .compareQuery column operator (query.mapData f)
  | .inList column operator values => .inList column operator (values.map (Option.map f))
  | .inQuery column operator query => .inQuery column operator (query.mapData f)
  | .raw sql => .raw sql

def Predicate.mapData (f : Datum → Datum) : Predicate → Predicate
  | .leaf settings test => .leaf settings (test.mapData f)
  | .node settings connective children =>
      .node settings connective (Predicate.mapDataAll f children)

def Predicate.mapDataAll (f : Datum → Datum) : List Predicate → List Predicate
  | [] => []
  | child :: children => child.mapData f :: Predicate.mapDataAll f children

def Source.mapData (f : Datum → Datum) : Source → Source
  | .table ref => .table ref
  | .derived ref query => .derived ref (query.mapData f)

def Query.mapData (f : Datum → Datum) : Query → Query
  | { schema, source, filters, havings, joins, selection, isDistinct, grouping, ordering,
      rowLimit, rowOffset, foldsCase } =>
      { schema, joins, selection, isDistinct, grouping, ordering, rowLimit, rowOffset, foldsCase
        source := source.mapData f
        filters := Predicate.mapDataAll f filters
        havings := Predicate.mapDataAll f havings }

end

def Assignment.mapData (f : Datum → Datum) (assignment : Assignment) : Assignment :=
  { assignment with value := assignment.value.map f }

def Assigned.mapData (f : Datum → Datum) (assigned : Assigned) : Assigned :=
  { assigned with value := assigned.value.map f }

def Bind.mapData (f : Datum → Datum) (bind : Bind) : Bind :=
  { bind with datum := f bind.datum }

def Fragment.mapData (f : Datum → Datum) (fragment : Fragment) : Fragment :=
  { fragment with binds := fragment.binds.map (Bind.mapData f) }

def Body.mapData (f : Datum → Datum) (body : Body) : Body :=
  { body with clauses := body.clauses.mapData f }

def Statement.mapData (f : Datum → Datum) (statement : Statement) : Statement :=
  { statement with binds := statement.binds.map (Bind.mapData f) }

def SelectPlan.mapData (f : Datum → Datum) (plan : SelectPlan) : SelectPlan :=
  { plan with statement := plan.statement.mapData f }

variable (f : Datum → Datum)

namespace Fragment

@[simp] theorem mapData_text (sql : String) : (text sql).mapData f = text sql := rfl

@[simp] theorem mapData_append (first second : Fragment) :
    (first ++ second).mapData f = first.mapData f ++ second.mapData f :=
  Fragment.ext rfl List.map_append

@[simp] theorem mapData_join (separator : String) (pieces : List Fragment) :
    (join separator pieces).mapData f = join separator (pieces.map (mapData f)) := by
  refine Fragment.ext ?_ ?_
  · simp only [mapData, join, List.map_map, Function.comp_def]
  · simp only [mapData, join, List.map_flatMap, List.flatMap_map]

end Fragment

@[simp] theorem mapData_parenthesized (fragment : Fragment) :
    (parenthesized fragment).mapData f = parenthesized (fragment.mapData f) := by
  simp only [parenthesized, Fragment.mapData_append, Fragment.mapData_text]

@[simp] theorem mapData_queryTest (column : QualifiedColumn) (operator : String)
    (nested : Fragment) :
    (queryTest column operator nested).mapData f =
      queryTest column operator (nested.mapData f) := by
  simp only [queryTest, Fragment.mapData_append, Fragment.mapData_text, mapData_parenthesized]

@[simp] theorem mapData_combine (connective : Connective) (pieces : List Fragment) :
    (connective.combine pieces).mapData f =
      connective.combine (pieces.map (Fragment.mapData f)) := by
  match pieces with
  | [] => rfl
  | [only] => rfl
  | first :: second :: rest =>
    simp only [Connective.combine, mapData_parenthesized, Fragment.mapData_join, List.map_cons]

@[simp] theorem mapData_conditionClause (keyword : String) (conditions : List Fragment) :
    (conditionClause keyword conditions).mapData f =
      conditionClause keyword (conditions.map (Fragment.mapData f)) := by
  cases conditions with
  | nil => rfl
  | cons first rest =>
    simp only [conditionClause, Fragment.mapData_append, Fragment.mapData_text,
      Fragment.mapData_join, List.map_cons]

/-- Of a value, only whether it is NULL decides what is written. -/
theorem valueTest_mapData (dialect : Dialect) (ignoreCase : Bool) (column : QualifiedColumn)
    (operator : Comparison) (value : Value) :
    valueTest dialect ignoreCase column operator (value.map f) =
      (valueTest dialect ignoreCase column operator value).map (Fragment.mapData f) := by
  cases value with
  | none => cases operator <;> rfl
  | some datum => rfl

/-- Of a list, only its length and whether a value is NULL decide what is written. -/
theorem listTest_mapData (column : QualifiedColumn) (operator : Membership)
    (values : List Value) :
    listTest column operator (values.map (Option.map f)) =
      (listTest column operator values).map (Fragment.mapData f) := by
  have presence (value : Value) : Value.isNull (value.map f) = Value.isNull value := by
    cases value <;> rfl
  have bound (value : Value) : Bind.ofValue? column.type (value.map f) =
      (Bind.ofValue? column.type value).map (Bind.mapData f) := by
    cases value <;> rfl
  have parameters (values : List Value) :
      (values.map (Option.map f)).filterMap (Bind.ofValue? column.type) =
        (values.filterMap (Bind.ofValue? column.type)).map (Bind.mapData f) := by
    simp only [List.filterMap_map, List.map_filterMap, Function.comp_def, bound]
  cases values with
  | nil => rfl
  | cons value values =>
    simp only [listTest, List.map_cons, List.any_cons, List.any_map, Function.comp_def, presence]
    split
    next => rfl
    next =>
      refine congrArg Except.ok (Fragment.ext ?_ (parameters (value :: values)))
      simp only [Fragment.mapData, List.map_map, Function.comp_def]

mutual

theorem Predicate.isEmpty_mapData : (predicate : Predicate) →
    (predicate.mapData f).isEmpty = predicate.isEmpty
  | .leaf _ _ => rfl
  | .node _ _ children => Predicate.allEmpty_mapDataAll children

theorem Predicate.allEmpty_mapDataAll : (children : List Predicate) →
    Predicate.allEmpty (Predicate.mapDataAll f children) = Predicate.allEmpty children
  | [] => rfl
  | child :: children => by
      simp only [Predicate.mapDataAll, Predicate.allEmpty, Predicate.isEmpty_mapData child,
        Predicate.allEmpty_mapDataAll children]

end

/-- The AND over predicates whose compiled pieces have their data replaced. -/
theorem conjunction_mapDataAll (predicates : List Predicate)
    (pieces : Except CompileError (List Fragment)) :
    conjunction (Predicate.mapDataAll f predicates)
        (pieces.map (List.map (Fragment.mapData f))) =
      (conjunction predicates pieces).map (Option.map (Fragment.mapData f)) := by
  unfold conjunction
  rw [Predicate.allEmpty_mapDataAll]
  split
  next => rfl
  next =>
    cases pieces with
    | error reason => rfl
    | ok fragments =>
      simp only [Except.map, Option.map_some, mapData_combine]

namespace Query

variable (query : Query)

@[simp] theorem source_mapData : (query.mapData f).source = query.source.mapData f := by
  cases query
  rfl

@[simp] theorem filters_mapData :
    (query.mapData f).filters = Predicate.mapDataAll f query.filters := by
  cases query
  rfl

@[simp] theorem havings_mapData :
    (query.mapData f).havings = Predicate.mapDataAll f query.havings := by
  cases query
  rfl

@[simp] theorem joins_mapData : (query.mapData f).joins = query.joins := by
  cases query
  rfl

@[simp] theorem rowLimit_mapData : (query.mapData f).rowLimit = query.rowLimit := by
  cases query
  rfl

@[simp] theorem rowOffset_mapData : (query.mapData f).rowOffset = query.rowOffset := by
  cases query
  rfl

@[simp] theorem primary_mapData : (query.mapData f).primary = query.primary := by
  obtain ⟨_, source⟩ := query
  cases source <;> rfl

@[simp] theorem layout_mapData : (query.mapData f).layout = query.layout := by
  obtain ⟨_, source⟩ := query
  cases source <;> rfl

@[simp] theorem scope_mapData : (query.mapData f).scope = query.scope := by
  obtain ⟨_, source⟩ := query
  cases source <;> rfl

@[simp] theorem groupClause_mapData : (query.mapData f).groupClause = query.groupClause := by
  obtain ⟨_, source⟩ := query
  cases source <;> rfl

@[simp] theorem orderClause_mapData (dialect : Dialect) :
    (query.mapData f).orderClause dialect = query.orderClause dialect := by
  obtain ⟨_, source⟩ := query
  cases source <;> rfl

@[simp] theorem hasLimitOrOffset_mapData :
    (query.mapData f).hasLimitOrOffset = query.hasLimitOrOffset := by
  cases query
  rfl

@[simp] theorem countsRows_mapData : (query.mapData f).countsRows = query.countsRows := by
  obtain ⟨_, _, _, havings⟩ := query
  cases havings <;> rfl

@[simp] theorem mutationTarget_mapData (mutation : Mutation) :
    (query.mapData f).mutationTarget mutation = query.mutationTarget mutation := by
  obtain ⟨_, source⟩ := query
  cases source <;> rfl

@[simp] theorem mutationScope_mapData (table : TableRef) :
    (query.mapData f).mutationScope table = query.mutationScope table := by
  obtain ⟨_, source⟩ := query
  cases source <;> rfl

theorem fromClause_mapData (dialect : Dialect) (origin : Fragment) :
    (query.mapData f).fromClause dialect (origin.mapData f) =
      (query.fromClause dialect origin).map (Fragment.mapData f) := by
  have listed : query.listedTables.map (fun ref => Fragment.text ref.fromSql) =
      (query.listedTables.map fun ref => Fragment.text ref.fromSql).map (Fragment.mapData f) := by
    simp only [List.map_map, Function.comp_def, Fragment.mapData_text]
  have same : (query.mapData f).fromClause dialect (origin.mapData f) =
      query.fromClause dialect (origin.mapData f) := by
    obtain ⟨_, source⟩ := query
    cases source <;> rfl
  rw [same]
  unfold fromClause
  cases query.joinedPrimary? with
  | some join => rfl
  | none =>
    simp only [Except.map, Fragment.mapData_append, Fragment.mapData_join, Fragment.mapData_text,
      List.map_cons, ← listed]

/-- What is put around the body does not depend on the data. -/
theorem selectWith_mapData (dialect : Dialect) (body : Body) :
    (query.mapData f).selectWith dialect (body.mapData f) =
      (query.selectWith dialect body).map (Fragment.mapData f) := by
  have list : (query.mapData f).selectList body.layout = query.selectList body.layout := by
    cases query; rfl
  unfold selectWith
  simp only [orderClause_mapData, rowLimit_mapData, rowOffset_mapData, Attempt.map_bind,
    Attempt.map_pure, Fragment.mapData_append, Fragment.mapData_text, Body.mapData, list]

/-- The body of a query whose source and conditions have their data replaced. -/
theorem body_mapData_of_parts {query : Query} {dialect : Dialect}
    (origin : (query.source.mapData f).compile dialect =
      (query.source.compile dialect).map (Fragment.mapData f))
    (filters : ∀ scope, Predicate.compileAll dialect scope (Predicate.mapDataAll f query.filters) =
      (Predicate.compileAll dialect scope query.filters).map (List.map (Fragment.mapData f)))
    (havings : ∀ scope, Predicate.compileAll dialect scope (Predicate.mapDataAll f query.havings) =
      (Predicate.compileAll dialect scope query.havings).map (List.map (Fragment.mapData f))) :
    (query.mapData f).body dialect = (query.body dialect).map (Body.mapData f) := by
  have implicit : (query.mapData f).implicitConditions dialect =
      query.implicitConditions dialect := by
    cases query; rfl
  have texts (conditions : List String) :
      (conditions.map Fragment.text).map (Fragment.mapData f) = conditions.map Fragment.text := by
    simp only [List.map_map, Function.comp_def, Fragment.mapData_text]
  have presence (conditions : List Fragment) (filter : Option Fragment) :
      (conditions ++ filter.toList.map (Fragment.mapData f)).isEmpty =
        (conditions ++ filter.toList).isEmpty := by
    cases conditions <;> cases filter <;> rfl
  rw [body_eq, body_eq]
  simp only [joins_mapData, source_mapData, filters_mapData, havings_mapData, implicit,
    layout_mapData, scope_mapData, groupClause_mapData, origin, filters, havings,
    conjunction_mapDataAll, Attempt.map_bind, Attempt.bind_map, fromClause_mapData,
    Attempt.map_pure, Body.mapData, Fragment.mapData_append, Fragment.mapData_text,
    mapData_conditionClause, List.map_append, texts, Option.toList_map, presence]

theorem nested_mapData {query : Query} {dialect : Dialect}
    (same : (query.mapData f).body dialect = (query.body dialect).map (Body.mapData f)) :
    (query.mapData f).nested dialect ((query.mapData f).body dialect) =
      (query.nested dialect (query.body dialect)).map (Fragment.mapData f) := by
  rw [same]
  unfold nested
  cases query.body dialect with
  | error reason => rfl
  | ok body => exact query.selectWith_mapData f dialect body

end Query

mutual

theorem Test.compile_mapData (dialect : Dialect) (scope : Scope) : (test : Test) →
    (test.mapData f).compile dialect scope =
      (test.compile dialect scope).map (Fragment.mapData f)
  | .compareValue spec operator value => by
      simp only [Test.mapData, Test.compile, valueTest_mapData, Attempt.map_bind]
  | .compareRaw spec operator sql => by
      simp only [Test.mapData, Test.compile, Attempt.map_bind, Attempt.map_pure, rawTest,
        Fragment.mapData_text]
  | .compareQuery spec operator query => by
      have nested := Query.nested_mapData f (query.body_mapData dialect)
      simp only [Test.mapData, Test.compile, nested, Attempt.map_bind, Attempt.bind_map,
        Attempt.map_pure, mapData_queryTest]
  | .inList spec operator values => by
      simp only [Test.mapData, Test.compile, listTest_mapData, Attempt.map_bind]
  | .inQuery spec operator query => by
      have nested := Query.nested_mapData f (query.body_mapData dialect)
      simp only [Test.mapData, Test.compile, nested, Query.hasLimitOrOffset_mapData,
        Attempt.map_bind, Attempt.bind_map, Attempt.map_pure, mapData_queryTest]
  | .raw sql => rfl

theorem Predicate.compile_mapData (dialect : Dialect) (scope : Scope) : (predicate : Predicate) →
    (predicate.mapData f).compile dialect scope =
      (predicate.compile dialect scope).map (Fragment.mapData f)
  | .leaf settings test => by
      rw [Predicate.mapData, Predicate.compile, Predicate.compile]
      exact test.compile_mapData dialect (scope.enter settings)
  | .node settings connective children => by
      simp only [Predicate.mapData, Predicate.compile,
        Predicate.compileAll_mapData dialect (scope.enter settings) children, Attempt.map_bind,
        Attempt.bind_map, Attempt.map_pure, mapData_combine]

theorem Predicate.compileAll_mapData (dialect : Dialect) (scope : Scope) :
    (children : List Predicate) →
      Predicate.compileAll dialect scope (Predicate.mapDataAll f children) =
        (Predicate.compileAll dialect scope children).map (List.map (Fragment.mapData f))
  | [] => rfl
  | child :: children => by
      simp only [Predicate.mapDataAll, Predicate.compileAll, child.compile_mapData dialect scope,
        Predicate.compileAll_mapData dialect scope children, Attempt.map_bind, Attempt.bind_map,
        Attempt.map_pure, List.map_cons]

theorem Source.compile_mapData (dialect : Dialect) : (source : Source) →
    (source.mapData f).compile dialect = (source.compile dialect).map (Fragment.mapData f)
  | .table ref => rfl
  | .derived ref query => by
      have nested := Query.nested_mapData f (query.body_mapData dialect)
      simp only [Source.mapData, Source.compile, nested, Attempt.map_bind, Attempt.bind_map,
        Attempt.map_pure, Fragment.mapData_append, Fragment.mapData_text, mapData_parenthesized]

/-- Replacing the data of a query replaces the parameters of its body. -/
theorem Query.body_mapData (dialect : Dialect) : (query : Query) →
    (query.mapData f).body dialect = (query.body dialect).map (Body.mapData f)
  | { source, filters, havings, .. } =>
    Query.body_mapData_of_parts f (source.compile_mapData dialect)
      (fun scope => Predicate.compileAll_mapData dialect scope filters)
      (fun scope => Predicate.compileAll_mapData dialect scope havings)

end

end PreparedSql
