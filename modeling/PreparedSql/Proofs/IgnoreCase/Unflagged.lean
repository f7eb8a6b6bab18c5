import PreparedSql.Proofs.Nested.Within

/-! Queries without their ignore-case flags, at any depth. Two queries that differ in their flags
alone are the same query once the flags are gone. What stays is everything that decides which
columns a query compares, and from which tables. -/

namespace PreparedSql

mutual

def Test.unflagged : Test → Test
  | .compareValue column operator value => .compareValue column operator value
  | .compareRaw column operator sql => .compareRaw column operator sql
  | .compareQuery column operator query => .compareQuery column operator query.unflagged
  | .inList column operator values => .inList column operator values
  | .inQuery column operator query => .inQuery column operator query.unflagged
  | .raw sql => .raw sql

def Predicate.unflagged : Predicate → Predicate
  | .leaf settings test => .leaf { settings with ignoreCase := none } test.unflagged
  | .node settings connective children =>
      .node { settings with ignoreCase := none } connective (Predicate.unflaggedAll children)

def Predicate.unflaggedAll : List Predicate → List Predicate
  | [] => []
  | child :: children => child.unflagged :: Predicate.unflaggedAll children

def Source.unflagged : Source → Source
  | .table ref => .table ref
  | .derived ref query => .derived ref query.unflagged

def Query.unflagged : Query → Query
  | { schema, source, filters, havings, joins, selection, isDistinct, grouping, ordering,
      rowLimit, rowOffset, .. } =>
      { schema, joins, selection, isDistinct, grouping, ordering, rowLimit, rowOffset
        source := source.unflagged
        filters := Predicate.unflaggedAll filters
        havings := Predicate.unflaggedAll havings
        foldsCase := false }

end

/-- Both find the same columns, also below nodes that look names up on a table of their own. -/
structure Scope.SameNames (scope other : Scope) : Prop where
  table : scope.table = other.table
  sources : scope.sources = other.sources

namespace Scope.SameNames

variable {scope other : Scope}

theorem resolve (same : scope.SameNames other) (spec : ColumnSpec) :
    scope.resolve spec = other.resolve spec := by
  unfold Scope.resolve
  rw [same.table, same.sources]

theorem enter (same : scope.SameNames other) (settings : NodeSettings) :
    (scope.enter settings).SameNames (other.enter { settings with ignoreCase := none }) where
  table := congrArg settings.table.or same.table
  sources := same.sources

end Scope.SameNames

mutual

theorem Predicate.isEmpty_unflagged : (predicate : Predicate) →
    predicate.unflagged.isEmpty = predicate.isEmpty
  | .leaf _ _ => rfl
  | .node _ _ children => Predicate.allEmpty_unflaggedAll children

theorem Predicate.allEmpty_unflaggedAll : (children : List Predicate) →
    Predicate.allEmpty (Predicate.unflaggedAll children) = Predicate.allEmpty children
  | [] => rfl
  | child :: children => by
      rw [Predicate.unflaggedAll, Predicate.allEmpty, Predicate.allEmpty,
        Predicate.isEmpty_unflagged child, Predicate.allEmpty_unflaggedAll children]

end

mutual

theorem Predicate.tests_unflagged : (predicate : Predicate) →
    predicate.unflagged.tests = predicate.tests.map Test.unflagged
  | .leaf _ _ => rfl
  | .node _ _ children => Predicate.testsOfAll_unflaggedAll children

theorem Predicate.testsOfAll_unflaggedAll : (children : List Predicate) →
    Predicate.testsOfAll (Predicate.unflaggedAll children) =
      (Predicate.testsOfAll children).map Test.unflagged
  | [] => rfl
  | child :: children => by
      rw [Predicate.unflaggedAll, Predicate.testsOfAll, Predicate.testsOfAll, List.map_append,
        Predicate.tests_unflagged child, Predicate.testsOfAll_unflaggedAll children]

end

theorem Test.query?_unflagged (test : Test) :
    test.unflagged.query? = test.query?.map Query.unflagged := by
  cases test <;> rfl

namespace Query

variable (query : Query)

@[simp] theorem source_unflagged : query.unflagged.source = query.source.unflagged := by
  cases query
  rfl

@[simp] theorem filters_unflagged :
    query.unflagged.filters = Predicate.unflaggedAll query.filters := by
  cases query
  rfl

@[simp] theorem havings_unflagged :
    query.unflagged.havings = Predicate.unflaggedAll query.havings := by
  cases query
  rfl

@[simp] theorem joins_unflagged : query.unflagged.joins = query.joins := by
  cases query
  rfl

@[simp] theorem ordering_unflagged : query.unflagged.ordering = query.ordering := by
  cases query
  rfl

@[simp] theorem rowLimit_unflagged : query.unflagged.rowLimit = query.rowLimit := by
  cases query
  rfl

@[simp] theorem rowOffset_unflagged : query.unflagged.rowOffset = query.rowOffset := by
  cases query
  rfl

@[simp] theorem hasLimitOrOffset_unflagged :
    query.unflagged.hasLimitOrOffset = query.hasLimitOrOffset := by
  cases query
  rfl

@[simp] theorem primary_unflagged : query.unflagged.primary = query.primary := by
  obtain ⟨_, source⟩ := query
  cases source <;> rfl

@[simp] theorem layout_unflagged : query.unflagged.layout = query.layout := by
  obtain ⟨_, source⟩ := query
  cases source <;> rfl

@[simp] theorem resolve_unflagged : query.unflagged.resolve = query.resolve := by
  obtain ⟨_, source⟩ := query
  cases source <;> rfl

@[simp] theorem groupClause_unflagged : query.unflagged.groupClause = query.groupClause := by
  obtain ⟨_, source⟩ := query
  cases source <;> rfl

@[simp] theorem selectList_unflagged : query.unflagged.selectList = query.selectList := by
  cases query
  rfl

theorem fromClause_unflagged (dialect : Dialect) :
    query.unflagged.fromClause dialect = query.fromClause dialect := by
  obtain ⟨_, source⟩ := query
  cases source <;> rfl

theorem joinClauses_unflagged (dialect : Dialect) :
    query.unflagged.joinClauses dialect = query.joinClauses dialect := by
  cases query
  rfl

theorem sameNames_unflagged : query.scope.SameNames query.unflagged.scope := by
  obtain ⟨_, source⟩ := query
  cases source <;> exact ⟨rfl, rfl⟩

theorem innerQueries_unflagged :
    query.unflagged.innerQueries = query.innerQueries.map unflagged := by
  have below : query.unflagged.tests = query.tests.map Test.unflagged := by
    unfold tests
    rw [filters_unflagged, havings_unflagged, Predicate.testsOfAll_unflaggedAll,
      Predicate.testsOfAll_unflaggedAll, List.map_append]
  have own : query.source.unflagged.query? = query.source.query?.map unflagged := by
    cases query.source <;> rfl
  unfold innerQueries
  rw [source_unflagged, own, below, List.map_append, Option.toList_map, List.filterMap_map,
    List.map_filterMap]
  simp only [Function.comp_def, Test.query?_unflagged]

variable {query}

/-- The queries inside a query stay inside, without their flags. -/
theorem Within.unflagged {inner : Query} (within : inner.Within query) :
    inner.unflagged.Within query.unflagged := by
  induction within with
  | refl => exact .refl
  | @inner child outer member below ih =>
    refine .inner ?_ ih
    rw [innerQueries_unflagged]
    exact List.mem_map_of_mem member

/-- No other query is inside once the flags are gone. -/
theorem Within.of_unflagged {inner : Query} (within : inner.Within query.unflagged) :
    ∃ other : Query, other.Within query ∧ other.unflagged = inner := by
  -- The outer query has to be a variable for the induction; each part of it then is one of the
  -- query's own parts without its flags.
  generalize whole : query.unflagged = outer at within
  induction within generalizing query with
  | refl => exact ⟨query, .refl, whole⟩
  | @inner child outer member below ih =>
    subst whole
    rw [innerQueries_unflagged] at member
    obtain ⟨part, own, rfl⟩ := List.mem_map.1 member
    obtain ⟨other, within, same⟩ := ih rfl
    exact ⟨other, .inner own within, same⟩

/-- The columns a query is sorted by. -/
def sortColumns (query : Query) : List QualifiedColumn :=
  query.ordering.flatMap fun entry =>
    match entry.target with
    | .column spec => (query.resolve spec).toOption.toList
    | .raw _ => []

/-- The columns that implicit joins require to be equal. -/
def matchedColumns (query : Query) : List QualifiedColumn :=
  (query.joins.filter (·.join.isImplicit)).flatMap fun entry =>
    entry.join.pairs.flatMap fun pair => [pair.left, pair.right]

end Query

mutual

/-- The column compared with a value that is not NULL, and those in a query. -/
def Test.caseColumns (scope : Scope) : Test → List QualifiedColumn
  | .compareValue spec _ (some _) => (scope.resolve spec).toOption.toList
  | .compareValue _ _ none => []
  | .compareRaw _ _ _ => []
  | .compareQuery _ _ query => query.caseColumns
  | .inList _ _ _ => []
  | .inQuery _ _ query => query.caseColumns
  | .raw _ => []

def Predicate.caseColumns (scope : Scope) : Predicate → List QualifiedColumn
  | .leaf settings test => test.caseColumns (scope.enter settings)
  | .node settings _ children => Predicate.caseColumnsOfAll (scope.enter settings) children

def Predicate.caseColumnsOfAll (scope : Scope) : List Predicate → List QualifiedColumn
  | [] => []
  | child :: children => child.caseColumns scope ++ Predicate.caseColumnsOfAll scope children

def Source.caseColumns : Source → List QualifiedColumn
  | .table _ => []
  | .derived _ query => query.caseColumns

/-- The columns whose case may count: compared with a value, sorted by or matched by an implicit
join, at any depth. -/
def Query.caseColumns : Query → List QualifiedColumn
  | query@{ source, filters, havings, .. } =>
      source.caseColumns ++ Predicate.caseColumnsOfAll query.scope filters ++
        Predicate.caseColumnsOfAll query.scope havings ++ query.sortColumns ++ query.matchedColumns

end

theorem Query.caseColumns_eq (query : Query) :
    query.caseColumns =
      query.source.caseColumns ++ Predicate.caseColumnsOfAll query.scope query.filters ++
        Predicate.caseColumnsOfAll query.scope query.havings ++ query.sortColumns ++
        query.matchedColumns := by
  cases query
  rfl

theorem Query.caseColumns_unflagged_of_parts {query : Query}
    (origin : query.source.unflagged.caseColumns = query.source.caseColumns)
    (filters : Predicate.caseColumnsOfAll query.unflagged.scope
        (Predicate.unflaggedAll query.filters) =
      Predicate.caseColumnsOfAll query.scope query.filters)
    (havings : Predicate.caseColumnsOfAll query.unflagged.scope
        (Predicate.unflaggedAll query.havings) =
      Predicate.caseColumnsOfAll query.scope query.havings) :
    query.unflagged.caseColumns = query.caseColumns := by
  have sorted : query.unflagged.sortColumns = query.sortColumns := by
    unfold sortColumns
    rw [ordering_unflagged, resolve_unflagged]
  have matched : query.unflagged.matchedColumns = query.matchedColumns := by
    unfold matchedColumns
    rw [joins_unflagged]
  rw [caseColumns_eq, caseColumns_eq query, source_unflagged, filters_unflagged,
    havings_unflagged, origin, filters, havings, sorted, matched]

mutual

theorem Test.caseColumns_unflagged {scope other : Scope} (same : scope.SameNames other) :
    (test : Test) → test.unflagged.caseColumns other = test.caseColumns scope
  | .compareValue spec _ (some _) => by
      rw [Test.unflagged, Test.caseColumns, Test.caseColumns, same.resolve]
  | .compareValue _ _ none => rfl
  | .compareRaw _ _ _ => rfl
  | .compareQuery _ _ query => query.caseColumns_unflagged
  | .inList _ _ _ => rfl
  | .inQuery _ _ query => query.caseColumns_unflagged
  | .raw _ => rfl

theorem Predicate.caseColumns_unflagged {scope other : Scope} (same : scope.SameNames other) :
    (predicate : Predicate) →
    predicate.unflagged.caseColumns other = predicate.caseColumns scope
  | .leaf settings test => test.caseColumns_unflagged (same.enter settings)
  | .node settings _ children => Predicate.caseColumnsOfAll_unflagged (same.enter settings) children

theorem Predicate.caseColumnsOfAll_unflagged {scope other : Scope} (same : scope.SameNames other) :
    (children : List Predicate) →
    Predicate.caseColumnsOfAll other (Predicate.unflaggedAll children) =
      Predicate.caseColumnsOfAll scope children
  | [] => rfl
  | child :: children => by
      rw [Predicate.unflaggedAll, Predicate.caseColumnsOfAll, Predicate.caseColumnsOfAll,
        child.caseColumns_unflagged same, Predicate.caseColumnsOfAll_unflagged same children]

theorem Source.caseColumns_unflagged : (source : Source) →
    source.unflagged.caseColumns = source.caseColumns
  | .table _ => rfl
  | .derived _ query => query.caseColumns_unflagged

/-- Which columns may count does not depend on the flags. -/
theorem Query.caseColumns_unflagged : (query : Query) →
    query.unflagged.caseColumns = query.caseColumns
  | { source, filters, havings, .. } =>
    Query.caseColumns_unflagged_of_parts source.caseColumns_unflagged
      (Predicate.caseColumnsOfAll_unflagged (Query.sameNames_unflagged _) filters)
      (Predicate.caseColumnsOfAll_unflagged (Query.sameNames_unflagged _) havings)

end

end PreparedSql
