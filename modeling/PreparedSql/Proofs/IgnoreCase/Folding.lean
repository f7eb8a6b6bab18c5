import PreparedSql.Proofs.Data.Plans
import PreparedSql.Proofs.IgnoreCase.Unflagged

/-! What ignore-case flags can change: how the text of a statement folds a text column, and nothing
else. A query is compared with what is left of it without its flags, piece by piece. The pieces
agree in everything but their texts, and also in these where no column with a case is involved. -/

namespace PreparedSql

/-- No column has a case to fold. -/
def NoneText (columns : List QualifiedColumn) : Prop :=
  ∀ column ∈ columns, column.isText = false

theorem noneText_append {columns more : List QualifiedColumn} :
    NoneText (columns ++ more) ↔ NoneText columns ∧ NoneText more :=
  List.forall_mem_append

theorem mem_resolved {outcome : Except CompileError QualifiedColumn} {column : QualifiedColumn}
    (found : outcome = .ok column) : column ∈ outcome.toOption.toList := by
  rw [found]
  exact List.mem_cons_self

variable {sameText : Prop}

def SameText (sameText : Prop) (text other : String) : Prop :=
  sameText → text = other

theorem eq_of_sameText {texts others : List String}
    (same : List.Forall₂ (SameText sameText) texts others) (holds : sameText) : texts = others := by
  rw [← List.forall₂_eq_eq_eq]
  exact same.imp fun _ _ each => each holds

/-- The same parameters and, on condition, the same text. -/
structure Fragment.Agrees (sameText : Prop) (first second : Fragment) : Prop where
  binds : first.binds = second.binds
  sql : sameText → first.sql = second.sql

structure Body.Agrees (sameText : Prop) (first second : Body) : Prop where
  layout : first.layout = second.layout
  clauses : first.clauses.Agrees sameText second.clauses
  hasWhere : first.hasWhere = second.hasWhere

structure Statement.Agrees (sameText : Prop) (first second : Statement) : Prop where
  sql : sameText → first.sql = second.sql
  binds : first.binds = second.binds
  kind : first.kind = second.kind
  table : first.table = second.table
  hasWhere : first.hasWhere = second.hasWhere

structure SelectPlan.Agrees (sameText : Prop) (first second : SelectPlan) : Prop where
  statement : first.statement.Agrees sameText second.statement
  layout : first.layout = second.layout
  primary : first.primary = second.primary
  joins : first.joins = second.joins

namespace Fragment.Agrees

variable {first second third fourth : Fragment} {pieces others : List Fragment}

theorem refl (fragment : Fragment) : fragment.Agrees sameText fragment :=
  ⟨rfl, fun _ => rfl⟩

theorem text {sql other : String} (same : sameText → sql = other) :
    (Fragment.text sql).Agrees sameText (Fragment.text other) :=
  ⟨rfl, same⟩

theorem append (left : first.Agrees sameText second) (right : third.Agrees sameText fourth) :
    (first ++ third).Agrees sameText (second ++ fourth) where
  binds := congrArg₂ (· ++ ·) left.binds right.binds
  sql := fun holds => congrArg₂ (· ++ ·) (left.sql holds) (right.sql holds)

theorem join (same : List.Forall₂ (Agrees sameText) pieces others) (separator : String) :
    (Fragment.join separator pieces).Agrees sameText (Fragment.join separator others) where
  binds := by
    simp only [Fragment.binds_join]
    induction same with
    | nil => rfl
    | cons here later ih => rw [List.flatMap_cons, List.flatMap_cons, here.binds, ih]
  sql := by
    intro holds
    simp only [Fragment.sql_join]
    refine congrArg _ ?_
    induction same with
    | nil => rfl
    | cons here later ih => rw [List.map_cons, List.map_cons, here.sql holds, ih]

theorem parenthesized (same : first.Agrees sameText second) :
    (PreparedSql.parenthesized first).Agrees sameText (PreparedSql.parenthesized second) :=
  ((refl _).append same).append (refl _)

theorem queryTest (same : first.Agrees sameText second) (column : QualifiedColumn)
    (operator : String) :
    (PreparedSql.queryTest column operator first).Agrees sameText
      (PreparedSql.queryTest column operator second) :=
  (refl _).append same.parenthesized

theorem combine (same : List.Forall₂ (Agrees sameText) pieces others) (connective : Connective) :
    (connective.combine pieces).Agrees sameText (connective.combine others) := by
  cases same with
  | nil => exact refl _
  | cons here later =>
    cases later with
    | nil => exact here
    | cons next rest => exact (join (.cons here (.cons next rest)) _).parenthesized

theorem conditionClause (same : List.Forall₂ (Agrees sameText) pieces others) (keyword : String) :
    (PreparedSql.conditionClause keyword pieces).Agrees sameText
      (PreparedSql.conditionClause keyword others) := by
  cases same with
  | nil => exact refl _
  | cons here later => exact (refl _).append (join (.cons here later) _)

end Fragment.Agrees

/-- A column without a case is compared as it is. -/
theorem placeholderTest_of_not_isText {column : QualifiedColumn} (plain : column.isText = false)
    (dialect : Dialect) (flag : Bool) (operator : Comparison) :
    placeholderTest dialect flag column operator = column.sql ++ " " ++ operator.sql ++ " ?" := by
  unfold placeholderTest
  rw [plain, Bool.and_false]
  rfl

theorem valueTest_agrees (dialect : Dialect) (flag other : Bool) {column : QualifiedColumn}
    (operator : Comparison) {value : Value}
    (plain : sameText → value.isSome = true → column.isText = false) :
    SameOutcome (Fragment.Agrees sameText) (valueTest dialect flag column operator value)
      (valueTest dialect other column operator value) := by
  cases value with
  | none => exact SameOutcome.refl Fragment.Agrees.refl _
  | some datum =>
    refine .ok ⟨rfl, fun holds => ?_⟩
    dsimp only
    rw [placeholderTest_of_not_isText (plain holds rfl),
      placeholderTest_of_not_isText (plain holds rfl)]

theorem Join.condition_of_noneText {join : Join}
    (plain : ∀ pair ∈ join.pairs, pair.left.isText = false ∧ pair.right.isText = false)
    (dialect : Dialect) (flag : Bool) :
    join.condition dialect flag = join.condition dialect false := by
  unfold condition
  refine congrArg _ (List.map_congr_left fun pair member => ?_)
  obtain ⟨left, right⟩ := plain pair member
  have folded : pair.foldedSql dialect = pair.sql := by
    unfold ColumnPair.foldedSql QualifiedColumn.foldedSql
    rw [left, right]
    rfl
  rw [folded, ite_self, ite_self]

/-- Whether there is a condition at all does not depend on the flags. -/
theorem conjunction_agrees {children : List Predicate}
    {pieces others : Except CompileError (List Fragment)}
    (same : SameOutcome (List.Forall₂ (Fragment.Agrees sameText)) pieces others) :
    SameOutcome (fun one other => List.Forall₂ (Fragment.Agrees sameText) one.toList other.toList)
      (conjunction children pieces) (conjunction (Predicate.unflaggedAll children) others) := by
  unfold conjunction
  rw [Predicate.allEmpty_unflaggedAll]
  split
  next => exact .ok .nil
  next => exact same.map fun alike => .cons (Fragment.Agrees.combine alike .and) .nil

namespace Query

/-- No column whose case may count has one, place by place. -/
structure Caseless (query : Query) : Prop where
  source : NoneText query.source.caseColumns
  filters : NoneText (Predicate.caseColumnsOfAll query.scope query.filters)
  havings : NoneText (Predicate.caseColumnsOfAll query.scope query.havings)
  sorted : NoneText query.sortColumns
  matched : NoneText query.matchedColumns

theorem caseless {query : Query} (plain : NoneText query.caseColumns) : query.Caseless := by
  rw [caseColumns_eq] at plain
  simp only [noneText_append, and_assoc] at plain
  obtain ⟨source, filters, havings, sorted, matched⟩ := plain
  exact ⟨source, filters, havings, sorted, matched⟩

variable (query : Query) (dialect : Dialect)

theorem orderSql_agrees {entry : OrderEntry} (member : entry ∈ query.ordering)
    (plain : sameText → NoneText query.sortColumns) :
    SameOutcome (SameText sameText) (query.orderSql dialect entry.target)
      (query.unflagged.orderSql dialect entry.target) := by
  cases own : entry.target with
  | raw sql => exact .ok fun _ => rfl
  | column spec =>
    simp only [orderSql, resolve_unflagged]
    refine SameOutcome.map_after fun column found holds => ?_
    have sorted : column ∈ query.sortColumns := by
      refine List.mem_flatMap.2 ⟨entry, member, ?_⟩
      rw [own]
      exact mem_resolved found
    rw [plain holds column sorted, Bool.and_false, Bool.and_false]

theorem orderClause_agrees (plain : sameText → NoneText query.sortColumns) :
    SameOutcome (SameText sameText) (query.orderClause dialect)
      (query.unflagged.orderClause dialect) := by
  have key (entry : OrderEntry) (member : entry ∈ query.ordering) :
      SameOutcome (SameText sameText)
        ((query.orderSql dialect entry.target).map (· ++ " " ++ entry.direction.keyword))
        ((query.unflagged.orderSql dialect entry.target).map
          (· ++ " " ++ entry.direction.keyword)) :=
    (query.orderSql_agrees dialect member plain).map fun same holds =>
      congrArg (· ++ " " ++ entry.direction.keyword) (same holds)
  unfold orderClause
  rw [ordering_unflagged]
  split
  next => exact .ok fun _ => rfl
  next =>
    refine (SameOutcome.mapM key).bind fun same => .ok fun holds => ?_
    rw [eq_of_sameText same holds]

/-- The conditions of the implicit joins are as many, and the same where no text is matched. -/
theorem implicitConditions_agrees (plain : sameText → NoneText query.matchedColumns) :
    List.Forall₂ (Fragment.Agrees sameText) ((query.implicitConditions dialect).map .text)
      ((query.unflagged.implicitConditions dialect).map .text) := by
  unfold implicitConditions
  rw [joins_unflagged, List.map_map, List.map_map, List.forall₂_map_left_iff,
    List.forall₂_map_right_iff, List.forall₂_same]
  intro entry member
  refine .text fun holds => ?_
  have pairs : ∀ pair ∈ entry.join.pairs, pair.left.isText = false ∧ pair.right.isText = false := by
    intro pair inside
    have matched (column : QualifiedColumn) (side : column ∈ [pair.left, pair.right]) :
        column.isText = false :=
      plain holds column
        (List.mem_flatMap.2 ⟨entry, member, List.mem_flatMap.2 ⟨pair, inside, side⟩⟩)
    exact ⟨matched _ List.mem_cons_self, matched _ (List.mem_cons_of_mem _ List.mem_cons_self)⟩
  dsimp only
  rw [Join.condition_of_noneText pairs dialect query.foldsCase,
    Join.condition_of_noneText pairs dialect query.unflagged.foldsCase]

theorem selectWith_agrees (plain : sameText → NoneText query.sortColumns) {body other : Body}
    (same : body.Agrees sameText other) :
    SameOutcome (Fragment.Agrees sameText) (query.selectWith dialect body)
      (query.unflagged.selectWith dialect other) := by
  unfold selectWith
  rw [rowLimit_unflagged, rowOffset_unflagged, selectList_unflagged, same.layout]
  refine (query.orderClause_agrees dialect plain).bind fun ordered => .after fun limiting _ => ?_
  refine .ok (((Fragment.Agrees.refl _).append same.clauses).append (.text fun holds => ?_))
  rw [ordered holds]

/-- The body, when the pieces that may hold queries agree. -/
theorem body_agrees_of_parts {query : Query} {dialect : Dialect}
    (plain : sameText → NoneText query.caseColumns)
    (origin : SameOutcome (Fragment.Agrees sameText) (query.source.compile dialect)
      (query.source.unflagged.compile dialect))
    (filters : SameOutcome (List.Forall₂ (Fragment.Agrees sameText))
      (Predicate.compileAll dialect query.scope query.filters)
      (Predicate.compileAll dialect query.unflagged.scope (Predicate.unflaggedAll query.filters)))
    (havings : SameOutcome (List.Forall₂ (Fragment.Agrees sameText))
      (Predicate.compileAll dialect query.scope query.havings)
      (Predicate.compileAll dialect query.unflagged.scope (Predicate.unflaggedAll query.havings))) :
    SameOutcome (Body.Agrees sameText) (query.body dialect) (query.unflagged.body dialect) := by
  have introduced {one other : Fragment} (same : one.Agrees sameText other) :
      SameOutcome (Fragment.Agrees sameText) (query.fromClause dialect one)
        (query.fromClause dialect other) := by
    unfold fromClause
    split
    next => exact .error _
    next =>
      have listed : List.Forall₂ (Fragment.Agrees sameText)
          (query.listedTables.map fun ref => .text ref.fromSql)
          (query.listedTables.map fun ref => .text ref.fromSql) :=
        List.forall₂_same.2 fun fragment _ => .refl fragment
      exact .ok ((Fragment.Agrees.join (.cons same listed) _).append (.refl _))
  rw [body_eq, body_eq dialect query.unflagged, joins_unflagged, layout_unflagged, source_unflagged,
    fromClause_unflagged, filters_unflagged, havings_unflagged, groupClause_unflagged]
  refine .after fun _ _ => .after fun layout _ => origin.bind fun started => ?_
  refine (introduced started).bind fun introduced => ?_
  refine (conjunction_agrees filters).bind fun filter => .after fun grouping _ => ?_
  refine (conjunction_agrees havings).bind fun having => ?_
  have matched := fun holds => (caseless (plain holds)).matched
  have conditions := List.rel_append (query.implicitConditions_agrees dialect matched) filter
  have presence {fragments others : List Fragment}
      (same : List.Forall₂ (Fragment.Agrees sameText) fragments others) :
      fragments.isEmpty = others.isEmpty := by
    cases same <;> rfl
  refine .ok ⟨rfl, ?_, congrArg not (presence conditions)⟩
  exact ((((Fragment.Agrees.refl _).append introduced).append
    (.conditionClause conditions _)).append (.refl _)).append (.conditionClause having _)

theorem nested_agrees {query : Query} {dialect : Dialect}
    (plain : sameText → NoneText query.caseColumns)
    (same : SameOutcome (Body.Agrees sameText) (query.body dialect)
      (query.unflagged.body dialect)) :
    SameOutcome (Fragment.Agrees sameText) (query.nested dialect (query.body dialect))
      (query.unflagged.nested dialect (query.unflagged.body dialect)) :=
  same.bind fun agrees => query.selectWith_agrees dialect
    (fun holds => (caseless (plain holds)).sorted) agrees

end Query

mutual

/-- The scopes find the same columns, and either of them may ignore case. -/
theorem Test.compile_agrees_unflagged (dialect : Dialect) {scope other : Scope}
    (same : scope.SameNames other) : (test : Test) →
    (sameText → NoneText (test.caseColumns scope)) →
    SameOutcome (Fragment.Agrees sameText) (test.compile dialect scope)
      (test.unflagged.compile dialect other)
  | .compareValue spec operator value, plain => by
      rw [Test.unflagged, Test.compile, Test.compile, ← same.resolve]
      refine .after fun column found => valueTest_agrees dialect _ _ operator fun holds given => ?_
      cases value with
      | none => cases given
      | some datum => exact plain holds column (mem_resolved found)
  | .compareRaw spec operator sql, _ => by
      rw [Test.unflagged, Test.compile, Test.compile, same.resolve]
      exact SameOutcome.refl Fragment.Agrees.refl _
  | .compareQuery spec operator query, plain => by
      have nested := Query.nested_agrees plain (query.body_agrees_unflagged dialect plain)
      rw [Test.unflagged, Test.compile, Test.compile, ← same.resolve]
      exact .after fun column _ => nested.bind fun agrees => .ok (agrees.queryTest column _)
  | .inList spec operator values, _ => by
      rw [Test.unflagged, Test.compile, Test.compile, same.resolve]
      exact SameOutcome.refl Fragment.Agrees.refl _
  | .inQuery spec operator query, plain => by
      have nested := Query.nested_agrees plain (query.body_agrees_unflagged dialect plain)
      rw [Test.unflagged, Test.compile, Test.compile, ← same.resolve,
        query.hasLimitOrOffset_unflagged]
      exact .after fun column _ => .after fun _ _ => nested.bind fun agrees =>
        .ok (agrees.queryTest column _)
  | .raw sql, _ => .ok (.refl _)

theorem Predicate.compile_agrees_unflagged (dialect : Dialect) {scope other : Scope}
    (same : scope.SameNames other) : (predicate : Predicate) →
    (sameText → NoneText (predicate.caseColumns scope)) →
    SameOutcome (Fragment.Agrees sameText) (predicate.compile dialect scope)
      (predicate.unflagged.compile dialect other)
  | .leaf settings test, plain => by
      rw [Predicate.unflagged, Predicate.compile, Predicate.compile]
      exact test.compile_agrees_unflagged dialect (same.enter settings) plain
  | .node settings connective children, plain => by
      have pieces :=
        Predicate.compileAll_agrees_unflagged dialect (same.enter settings) children plain
      rw [Predicate.unflagged, Predicate.compile, Predicate.compile]
      exact pieces.bind fun agrees => .ok (.combine agrees connective)

theorem Predicate.compileAll_agrees_unflagged (dialect : Dialect) {scope other : Scope}
    (same : scope.SameNames other) : (children : List Predicate) →
    (sameText → NoneText (Predicate.caseColumnsOfAll scope children)) →
    SameOutcome (List.Forall₂ (Fragment.Agrees sameText))
      (Predicate.compileAll dialect scope children)
      (Predicate.compileAll dialect other (Predicate.unflaggedAll children))
  | [], _ => .ok .nil
  | child :: children, plain => by
      have split := fun holds => noneText_append.1 (plain holds)
      rw [Predicate.unflaggedAll, Predicate.compileAll, Predicate.compileAll]
      refine (child.compile_agrees_unflagged dialect same fun holds => (split holds).1).bind
        fun here => ?_
      exact (Predicate.compileAll_agrees_unflagged dialect same children
        fun holds => (split holds).2).bind fun later => .ok (.cons here later)

theorem Source.compile_agrees_unflagged (dialect : Dialect) : (source : Source) →
    (sameText → NoneText source.caseColumns) →
    SameOutcome (Fragment.Agrees sameText) (source.compile dialect)
      (source.unflagged.compile dialect)
  | .table ref, _ => .ok (.refl _)
  | .derived ref query, plain => by
      have nested := Query.nested_agrees plain (query.body_agrees_unflagged dialect plain)
      rw [Source.unflagged, Source.compile, Source.compile]
      exact .after fun _ _ => nested.bind fun agrees =>
        .ok (agrees.parenthesized.append (.refl _))

/-- The flags of a query decide over nothing but text in its body. -/
theorem Query.body_agrees_unflagged (dialect : Dialect) : (query : Query) →
    (sameText → NoneText query.caseColumns) →
    SameOutcome (Body.Agrees sameText) (query.body dialect) (query.unflagged.body dialect)
  | { source, filters, havings, .. }, plain =>
    Query.body_agrees_of_parts plain
      (source.compile_agrees_unflagged dialect fun holds =>
        (Query.caseless (plain holds)).source)
      (Predicate.compileAll_agrees_unflagged dialect (Query.sameNames_unflagged _) filters
        fun holds => (Query.caseless (plain holds)).filters)
      (Predicate.compileAll_agrees_unflagged dialect (Query.sameNames_unflagged _) havings
        fun holds => (Query.caseless (plain holds)).havings)

end

theorem Query.selectPlan_agrees_unflagged (query : Query) (dialect : Dialect)
    (plain : sameText → NoneText query.caseColumns) :
    SameOutcome (SelectPlan.Agrees sameText) (query.selectPlan dialect)
      (query.unflagged.selectPlan dialect) := by
  have sorted := fun holds => (caseless (plain holds)).sorted
  unfold selectPlan
  rw [primary_unflagged, joins_unflagged]
  refine (query.body_agrees_unflagged dialect plain).bind fun bodies => ?_
  refine (query.selectWith_agrees dialect sorted bodies).bind fun written => ?_
  exact .ok ⟨⟨written.sql, written.binds, rfl, rfl, bodies.hasWhere⟩, bodies.layout, rfl, rfl⟩

theorem SelectPlan.Agrees.meet {first second third : SelectPlan}
    (one : first.Agrees sameText third) (other : second.Agrees sameText third) :
    first.Agrees sameText second where
  statement :=
    { sql := fun holds => (one.statement.sql holds).trans (other.statement.sql holds).symm
      binds := one.statement.binds.trans other.statement.binds.symm
      kind := one.statement.kind.trans other.statement.kind.symm
      table := one.statement.table.trans other.statement.table.symm
      hasWhere := one.statement.hasWhere.trans other.statement.hasWhere.symm }
  layout := one.layout.trans other.layout.symm
  primary := one.primary.trans other.primary.symm
  joins := one.joins.trans other.joins.symm

/-- Queries that differ in their flags alone have plans that agree in everything but the text, and in
the text too when no column whose case may count has any. Where the one has no plan, the other has
none for the same reason. The JOIN clauses never differ, in no query inside either. -/
theorem flags_fold_text_only (dialect : Dialect) {first second : Query}
    (same : first.unflagged = second.unflagged) :
    SameOutcome (SelectPlan.Agrees (NoneText first.caseColumns)) (first.selectPlan dialect)
        (second.selectPlan dialect) ∧
      first.joinClauses dialect = second.joinClauses dialect ∧
      ∀ inner : Query, inner.Within first → ∃ other : Query, other.Within second ∧
        other.unflagged = inner.unflagged ∧
        other.joinClauses dialect = inner.joinClauses dialect := by
  have columns : second.caseColumns = first.caseColumns := by
    rw [← second.caseColumns_unflagged, ← same, first.caseColumns_unflagged]
  have clauses {one other : Query} (alike : one.unflagged = other.unflagged) :
      one.joinClauses dialect = other.joinClauses dialect := by
    rw [← one.joinClauses_unflagged, alike, other.joinClauses_unflagged]
  refine ⟨?_, clauses same, fun inner within => ?_⟩
  · have one := first.selectPlan_agrees_unflagged dialect id
    have other := second.selectPlan_agrees_unflagged dialect
      fun holds : NoneText first.caseColumns => columns ▸ holds
    rw [same] at one
    exact one.of_both other SelectPlan.Agrees.meet
  · have moved := within.unflagged
    rw [same] at moved
    obtain ⟨other, inside, alike⟩ := moved.of_unflagged
    exact ⟨other, inside, alike, clauses alike⟩

/-- Messages by the value of a column, or without a title. Each has its thread joined twice, by
number beside it and by title in a JOIN clause. The flags are those of the query, of the query
inside and of the condition in there. -/
def messagesOf (column : String) (outer inner condition : Bool) : Query :=
  let messages : Table :=
    { name := "message"
      columns := [{ name := "thread", type := .integer }, { name := "title", type := .varchar }] }
  let threads : Table :=
    { name := "thread"
      columns := [{ name := "id", type := .integer }, { name := "title", type := .varchar }] }
  let numbered : ColumnPair :=
    { left := ⟨{ table := messages }, { name := "thread", type := .integer }⟩
      right := ⟨{ table := threads }, { name := "id", type := .integer }⟩ }
  let titled : ColumnPair :=
    { left := ⟨{ table := messages }, { name := "title", type := .varchar }⟩
      right :=
        ⟨{ table := threads, aliasName := some "t" }, { name := "title", type := .varchar }⟩ }
  let tests : List Predicate :=
    [.compare (.named column) .equal (Datum.int 7), .isNull (.named "title")]
  let below : Query :=
    { schema := ⟨"", [messages, threads]⟩
      source := .table { table := messages }
      filters := [(Predicate.any tests).ignoreCase condition]
      selection := [.column (.named "thread")]
      foldsCase := inner }
  { below with
    filters := [.inQuery (.named "thread") .isIn below]
    joins := [{ join := { kind := .implicit, first := numbered } },
      { join := { kind := .left, first := titled } }]
    ordering := [⟨.column (.named "thread"), .descending⟩]
    foldsCase := outer }

theorem flags_fold_text_only_messagesOf :
    (messagesOf "thread" true false true).unflagged =
        (messagesOf "thread" false true false).unflagged ∧
      NoneText (messagesOf "thread" true false true).caseColumns ∧
      ((messagesOf "thread" true false true).selectPlan .mysql).isOk = true ∧
      SameOutcome
        (SelectPlan.Agrees (NoneText (messagesOf "thread" true false true).caseColumns))
        ((messagesOf "thread" true false true).selectPlan .mysql)
        ((messagesOf "thread" false true false).selectPlan .mysql) ∧
      ((messagesOf "title" true false true).selectPlan .mysql).isOk = true ∧
      SameOutcome
        (SelectPlan.Agrees (NoneText (messagesOf "title" true false true).caseColumns))
        ((messagesOf "title" true false true).selectPlan .mysql)
        ((messagesOf "title" false true false).selectPlan .mysql) ∧
      ((messagesOf "title" true false true).selectPlan .mysql).map (·.statement.sql) ≠
        ((messagesOf "title" false true false).selectPlan .mysql).map (·.statement.sql) := by
  have same (column : String) : (messagesOf column true false true).unflagged =
      (messagesOf column false true false).unflagged := rfl
  have plain : NoneText (messagesOf "thread" true false true).caseColumns := by
    unfold NoneText
    decide +kernel
  refine ⟨same _, plain, rfl, (flags_fold_text_only .mysql (same _)).1, rfl,
    (flags_fold_text_only .mysql (same _)).1, ?_⟩
  intro equal
  have texts := Except.ok.inj equal
  revert texts
  decide +kernel

end PreparedSql
