import Mathlib.Data.List.ReduceOption
import PreparedSql.Proofs.Attempt
import PreparedSql.Proofs.Template.Reference

/-! Compiling is writing the reference template down: text and parameters are those of the
template, and where the one fails the other fails in the same way. -/

namespace PreparedSql

namespace Template

theorem fragment_single (around : String → String) (column : QualifiedColumn) (datum : Datum) :
    fragment [.value around column datum] =
      { sql := around "?", binds := [⟨column.type, datum⟩] } := by
  simp [fragment, sql, binds, Piece.sql, Piece.bind?, String.join]

theorem fragment_value (front : String) (around : String → String) (column : QualifiedColumn)
    (datum : Datum) :
    fragment [.text front, .value around column datum] =
      { sql := front ++ around "?", binds := [⟨column.type, datum⟩] } := by
  exact (fragment_append (text front) [.value around column datum]).trans
    (by rw [fragment_text, fragment_single]; rfl)

theorem valueTest_fragment (dialect : Dialect) (ignoreCase : Bool) (column : QualifiedColumn)
    (operator : Comparison) (value : Value) :
    PreparedSql.valueTest dialect ignoreCase column operator value =
      (valueTest dialect ignoreCase column operator value).map fragment := by
  cases value with
  | none =>
    cases operator <;>
      simp only [PreparedSql.valueTest, valueTest, Except.map, fragment_text]
  | some datum =>
    have mark : (" ?" : String) = " " ++ "?" := rfl
    unfold PreparedSql.valueTest valueTest placeholderTest
    simp only [Except.map]
    split
    next =>
      cases dialect.foldedOperator operator with
      | some folded => simp only [fragment_value, mark, String.append_assoc, id]
      | none => simp only [fragment_value]
    next => simp only [fragment_value, mark, String.append_assoc, id]

/-- A list without NULL is a list of data. -/
theorem exists_data {values : List Value} (present : values.any Value.isNull = false) :
    ∃ data : List Datum, values = data.map some := by
  induction values with
  | nil => exact ⟨[], rfl⟩
  | cons value values ih =>
    rw [List.any_cons, Bool.or_eq_false_iff] at present
    obtain ⟨data, rfl⟩ := ih present.2
    cases value with
    | none => cases present.1
    | some datum => exact ⟨datum :: data, rfl⟩

theorem reduceOption_map_some (data : List Datum) :
    (data.map some : List Value).reduceOption = data := by
  induction data with
  | nil => exact List.reduceOption_nil
  | cons datum rest ih => rw [List.map_cons, List.reduceOption_cons_of_some, ih]

/-- A comma list of placeholders, and the data behind them. -/
theorem fragment_join_values (column : QualifiedColumn) (data : List Datum) :
    (join "," (data.map fun datum => [.value id column datum])).fragment =
      { sql := ",".intercalate (data.map fun _ => "?")
        binds := data.map fun datum => ⟨column.type, datum⟩ } := by
  simp only [fragment_join, Fragment.join, List.map_map, Function.comp_def, fragment_single, id,
    List.flatMap_map]
  rw [← List.map_eq_flatMap]

theorem listTest_fragment (column : QualifiedColumn) (operator : Membership)
    (values : List Value) :
    PreparedSql.listTest column operator values =
      (listTest column operator values).map fragment := by
  cases values with
  | nil => simp only [PreparedSql.listTest, listTest, List.isEmpty_nil, if_true, Except.map,
      fragment_text]
  | cons value values =>
    unfold PreparedSql.listTest listTest
    simp only [List.isEmpty_cons, Bool.false_eq_true, if_false]
    split
    next => rfl
    next present =>
      obtain ⟨data, same⟩ := exists_data (Bool.eq_false_iff.2 present)
      have opening : (" (" : String) = " " ++ "(" := rfl
      rw [same, reduceOption_map_some]
      simp only [Except.map, fragment_append, fragment_text, fragment_parenthesized,
        fragment_join_values, List.map_map]
      refine congrArg Except.ok (Fragment.ext ?_ ?_)
      · simp only [PreparedSql.parenthesized, Fragment.sql_append, Fragment.sql_text, opening,
          String.append_assoc, Function.comp_def]
      · simp [PreparedSql.parenthesized, List.filterMap_map, Function.comp_def, Bind.ofValue?]

theorem queryTest_fragment (column : QualifiedColumn) (operator : String) (nested : Template) :
    (queryTest column operator nested).fragment =
      PreparedSql.queryTest column operator nested.fragment := by
  simp only [queryTest, fragment_append, fragment_text, fragment_parenthesized,
    PreparedSql.queryTest]

end Template

namespace Query

theorem fromClause_fragment (query : Query) (dialect : Dialect) (origin : Template) :
    query.fromClause dialect origin.fragment =
      (query.fromTemplate dialect origin).map Template.fragment := by
  have listed : (query.listedTables.map fun ref => Fragment.text ref.fromSql) =
      (query.listedTables.map fun ref => Template.text ref.fromSql).map Template.fragment := by
    simp only [List.map_map, Function.comp_def, Template.fragment_text]
  unfold fromClause fromTemplate
  cases query.joinedPrimary? with
  | some join => rfl
  | none =>
    simp only [Except.map, Template.fragment_append, Template.fragment_join,
      Template.fragment_text, List.map_cons, listed]

theorem selectWith_fragment (query : Query) (dialect : Dialect) (body : BodyTemplate) :
    query.selectWith dialect body.body =
      (query.selectTemplateWith dialect body).map Template.fragment := by
  unfold selectWith selectTemplateWith
  rw [Attempt.map_bind]
  refine Attempt.bind_congr fun ordering => ?_
  rw [Attempt.map_bind]
  refine Attempt.bind_congr fun limiting => ?_
  simp only [Attempt.map_pure, Template.fragment_append, Template.fragment_text, BodyTemplate.body]

theorem bodyTemplate_eq (dialect : Dialect) (query : Query) :
    query.bodyTemplate dialect = (do
      Chain.check query.joins
      let layout ← query.layout
      let origin ← query.source.template dialect
      let introduced ← query.fromTemplate dialect origin
      let filter ← Template.conjunction query.filters
        (Predicate.templates dialect query.scope query.filters)
      let grouping ← query.groupClause
      let having ← Template.conjunction query.havings
        (Predicate.templates dialect query.scope query.havings)
      let conditions := (query.implicitConditions dialect).map Template.text ++ filter.toList
      return {
        layout
        clauses := .text " FROM " ++ introduced ++
          Template.conditionClause " WHERE " conditions ++ .text grouping ++
          Template.conditionClause " HAVING " having.toList
        hasWhere := !conditions.isEmpty }) := by
  cases query
  rfl

/-- The body of a query whose source and conditions are written down from their templates. -/
theorem body_eq_of_parts {query : Query} {dialect : Dialect}
    (origin : query.source.compile dialect =
      (query.source.template dialect).map Template.fragment)
    (filters : ∀ scope, Predicate.compileAll dialect scope query.filters =
      (Predicate.templates dialect scope query.filters).map (List.map Template.fragment))
    (havings : ∀ scope, Predicate.compileAll dialect scope query.havings =
      (Predicate.templates dialect scope query.havings).map (List.map Template.fragment)) :
    query.body dialect = (query.bodyTemplate dialect).map BodyTemplate.body := by
  have texts (conditions : List String) :
      (conditions.map Template.text).map Template.fragment = conditions.map Fragment.text := by
    simp only [List.map_map, Function.comp_def, Template.fragment_text]
  have presence (conditions : List String) (filter : Option Template) :
      (conditions.map Fragment.text ++ filter.toList.map Template.fragment).isEmpty =
        (conditions.map Template.text ++ filter.toList).isEmpty := by
    cases conditions <;> cases filter <;> rfl
  rw [body_eq, bodyTemplate_eq]
  simp only [origin, filters, havings, ← Template.fragment_conjunction, fromClause_fragment,
    Attempt.map_bind, Attempt.bind_map, Attempt.map_pure, BodyTemplate.body,
    Template.fragment_append, Template.fragment_text, Template.fragment_conditionClause,
    List.map_append, texts, Option.toList_map, presence]

/-- A query inside another statement is compiled like one on its own. -/
theorem nested_fragment {query : Query} {dialect : Dialect}
    (same : query.body dialect = (query.bodyTemplate dialect).map BodyTemplate.body) :
    query.nested dialect (query.body dialect) =
      ((query.bodyTemplate dialect).bind (query.selectTemplateWith dialect)).map
        Template.fragment := by
  rw [same]
  unfold nested
  cases query.bodyTemplate dialect with
  | error reason => rfl
  | ok body => exact selectWith_fragment query dialect body

end Query

mutual

theorem Test.compile_eq (dialect : Dialect) (scope : Scope) : (test : Test) →
    test.compile dialect scope = (test.template dialect scope).map Template.fragment
  | .compareValue spec operator value => by
      simp only [Test.compile, Test.template, Attempt.map_bind]
      exact Attempt.bind_congr fun column =>
        Template.valueTest_fragment dialect scope.ignoreCase column operator value
  | .compareRaw spec operator sql => by
      simp only [Test.compile, Test.template, Attempt.map_bind, Attempt.map_pure,
        Template.rawTest, Template.fragment_text, rawTest]
  | .compareQuery spec operator query => by
      have nested := Query.nested_fragment (query.body_eq_template dialect)
      simp only [Test.compile, Test.template, nested, Attempt.map_bind, Attempt.bind_map,
        Attempt.map_pure, Template.queryTest_fragment]
  | .inList spec operator values => by
      simp only [Test.compile, Test.template, Attempt.map_bind]
      exact Attempt.bind_congr fun column => Template.listTest_fragment column operator values
  | .inQuery spec operator query => by
      have nested := Query.nested_fragment (query.body_eq_template dialect)
      simp only [Test.compile, Test.template, nested, Attempt.map_bind, Attempt.bind_map,
        Attempt.map_pure, Template.queryTest_fragment]
  | .raw sql => by
      simp only [Test.compile, Test.template, Except.map, Template.fragment_text]

theorem Predicate.compile_eq (dialect : Dialect) (scope : Scope) : (predicate : Predicate) →
    predicate.compile dialect scope = (predicate.template dialect scope).map Template.fragment
  | .leaf settings test => by
      rw [Predicate.compile, Predicate.template]
      exact test.compile_eq dialect (scope.enter settings)
  | .node settings connective children => by
      simp only [Predicate.compile, Predicate.template, Attempt.map_bind, Attempt.map_pure,
        Predicate.compileAll_eq dialect (scope.enter settings) children, Attempt.bind_map,
        Template.fragment_combine]

theorem Predicate.compileAll_eq (dialect : Dialect) (scope : Scope) :
    (children : List Predicate) →
      Predicate.compileAll dialect scope children =
        (Predicate.templates dialect scope children).map (List.map Template.fragment)
  | [] => rfl
  | child :: children => by
      simp only [Predicate.compileAll, Predicate.templates, child.compile_eq dialect scope,
        Predicate.compileAll_eq dialect scope children, Attempt.map_bind, Attempt.bind_map,
        Attempt.map_pure, List.map_cons]

theorem Source.compile_eq (dialect : Dialect) : (source : Source) →
    source.compile dialect = (source.template dialect).map Template.fragment
  | .table ref => by
      simp only [Source.compile, Source.template, Except.map, Template.fragment_text]
  | .derived ref query => by
      have nested := Query.nested_fragment (query.body_eq_template dialect)
      simp only [Source.compile, Source.template, nested, Attempt.map_bind, Attempt.bind_map,
        Attempt.map_pure, Template.fragment_append, Template.fragment_text,
        Template.fragment_parenthesized]

theorem Query.body_eq_template (dialect : Dialect) : (query : Query) →
    query.body dialect = (query.bodyTemplate dialect).map BodyTemplate.body
  | { source, filters, havings, .. } =>
    Query.body_eq_of_parts (source.compile_eq dialect)
      (fun scope => Predicate.compileAll_eq dialect scope filters)
      (fun scope => Predicate.compileAll_eq dialect scope havings)

end

namespace Assigned

theorem fragment_template (assigned : Assigned) :
    assigned.template.fragment = assigned.placeholder := by
  unfold template placeholder
  cases assigned.value with
  | none => exact Template.fragment_text _
  | some datum => exact Template.fragment_single id assigned.column datum

theorem fragment_setTemplate (assigned : Assigned) :
    assigned.setTemplate.fragment = assigned.setClause := by
  simp only [setTemplate, Template.fragment_append, Template.fragment_text, fragment_template,
    setClause]

end Assigned

theorem Predicate.build_eq (predicate : Predicate) (dialect : Dialect) :
    predicate.build dialect = (predicate.buildTemplate dialect).map Template.fragment := by
  unfold build buildTemplate
  split
  next => simp only [Except.map, Template.fragment_text]
  next => exact predicate.compile_eq dialect {}

namespace Query

theorem selectWith_body_eq (query : Query) (dialect : Dialect) :
    (query.body dialect).bind (query.selectWith dialect) =
      (query.selectTemplate dialect).map Template.fragment :=
  nested_fragment (query.body_eq_template dialect)

theorem selectPlan_statement {query : Query} {dialect : Dialect} {plan : SelectPlan}
    (planned : query.selectPlan dialect = .ok plan) :
    ∃ template, query.selectTemplate dialect = .ok template ∧
      template.fragment = ⟨plan.statement.sql, plan.statement.binds⟩ := by
  obtain ⟨body, compiled, rest⟩ := Attempt.bind_eq_ok.1 planned
  obtain ⟨fragment, selected, done⟩ := Attempt.bind_eq_ok.1 rest
  have written : (query.selectTemplate dialect).map Template.fragment = .ok fragment := by
    rw [← selectWith_body_eq, compiled]
    exact selected
  obtain ⟨template, reference, rfl⟩ := Attempt.map_eq_ok.1 written
  cases Attempt.pure_eq_ok.1 done
  exact ⟨template, reference, rfl⟩

theorem countPlan_statement {query : Query} {dialect : Dialect} {statement : Statement}
    (planned : query.countPlan dialect = .ok statement) :
    ∃ template, query.countTemplate dialect = .ok template ∧
      template.fragment = ⟨statement.sql, statement.binds⟩ := by
  obtain ⟨body, compiled, rest⟩ := Attempt.bind_eq_ok.1 planned
  rw [body_eq_template] at compiled
  obtain ⟨reference, ran, rfl⟩ := Attempt.map_eq_ok.1 compiled
  unfold countTemplate
  rw [ran]
  by_cases wrapped : query.countsRows = true
  · simp only [wrapped, if_true] at rest
    obtain ⟨selected, inside, done⟩ := Attempt.bind_eq_ok.1 rest
    rw [selectWith_fragment] at inside
    obtain ⟨inner, innerRan, rfl⟩ := Attempt.map_eq_ok.1 inside
    cases done
    refine ⟨_, by simp only [bind, Except.bind, wrapped, if_true, innerRan]; rfl, ?_⟩
    simp only [Template.fragment_append, Template.fragment_text,
      Template.fragment_parenthesized]
  · simp only [wrapped, Bool.false_eq_true, if_false] at rest
    cases rest
    refine ⟨_, by simp only [bind, Except.bind, wrapped, Bool.false_eq_true, if_false]; rfl, ?_⟩
    simp only [Template.fragment_append, Template.fragment_text]
    rfl

theorem mutationCondition_eq (query : Query) (dialect : Dialect) (table : TableRef) :
    query.mutationCondition dialect table =
      (query.mutationTemplate dialect table).map (Option.map Template.fragment) := by
  unfold mutationCondition mutationTemplate
  rw [Template.fragment_conjunction, Predicate.compileAll_eq]

/-- A finished UPDATE or DELETE is the fragment it was finished from. -/
theorem finishMutation_fragment {kind : StatementKind} {table : TableRef} {hasWhere : Bool}
    {fragment : Fragment} {statement : Statement}
    (finished : finishMutation kind table hasWhere fragment = .ok statement) :
    fragment = ⟨statement.sql, statement.binds⟩ := by
  obtain ⟨-, -, done⟩ := Attempt.bind_eq_ok.1 finished
  cases Attempt.pure_eq_ok.1 done
  rfl

theorem deletePlan_statement {query : Query} {dialect : Dialect} {statement : Statement}
    (planned : query.deletePlan dialect = .ok statement) :
    ∃ template, query.deleteTemplate dialect = .ok template ∧
      template.fragment = ⟨statement.sql, statement.binds⟩ := by
  obtain ⟨table, target, rest⟩ := Attempt.bind_eq_ok.1 planned
  obtain ⟨condition, compiled, finished⟩ := Attempt.bind_eq_ok.1 rest
  rw [mutationCondition_eq] at compiled
  obtain ⟨reference, ran, rfl⟩ := Attempt.map_eq_ok.1 compiled
  unfold deleteTemplate
  rw [target]
  refine ⟨_, by simp only [bind, Except.bind, ran]; rfl, ?_⟩
  rw [← finishMutation_fragment finished]
  simp only [Template.fragment_append, Template.fragment_text,
    Template.fragment_conditionClause, Option.toList_map]

theorem updatePlan_statement {query : Query} {assignments : List Assignment} {dialect : Dialect}
    {statement : Statement} (planned : query.updatePlan assignments dialect = .ok statement) :
    ∃ template, query.updateTemplate assignments dialect = .ok template ∧
      template.fragment = ⟨statement.sql, statement.binds⟩ := by
  obtain ⟨table, target, rest⟩ := Attempt.bind_eq_ok.1 planned
  obtain ⟨assigned, resolved, rest⟩ := Attempt.bind_eq_ok.1 rest
  obtain ⟨condition, compiled, finished⟩ := Attempt.bind_eq_ok.1 rest
  rw [mutationCondition_eq] at compiled
  obtain ⟨reference, ran, rfl⟩ := Attempt.map_eq_ok.1 compiled
  unfold updateTemplate
  rw [target]
  refine ⟨_, by simp only [bind, Except.bind, resolved, ran]; rfl, ?_⟩
  rw [← finishMutation_fragment finished]
  simp only [Template.fragment_append, Template.fragment_text, Template.fragment_join,
    Template.fragment_conditionClause, Option.toList_map, List.map_map, Function.comp_def,
    Assigned.fragment_setTemplate]

theorem insertPlan_statement {query : Query} {assignments : List Assignment}
    {statement : Statement} (planned : query.insertPlan assignments = .ok statement) :
    ∃ template, query.insertTemplate assignments = .ok template ∧
      template.fragment = ⟨statement.sql, statement.binds⟩ := by
  obtain ⟨table, target, rest⟩ := Attempt.bind_eq_ok.1 planned
  obtain ⟨assigned, resolved, finished⟩ := Attempt.bind_eq_ok.1 rest
  unfold insertTemplate
  rw [target]
  refine ⟨_, by simp only [bind, Except.bind, resolved]; rfl, ?_⟩
  rw [← finishMutation_fragment finished]
  simp only [Template.fragment_append, Template.fragment_text, Template.fragment_join,
    Template.fragment_parenthesized, List.map_map, Function.comp_def,
    Assigned.fragment_template]

end Query

end PreparedSql
