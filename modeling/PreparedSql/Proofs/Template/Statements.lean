import PreparedSql.Proofs.Template.Closed

/-! Every statement is put together from texts and values alone: a property that compiling for
the dialect keeps, and that the caller's texts have, holds of every template of the compiler. -/

namespace PreparedSql

open Template (Closed)

variable {dialect : Dialect} {R : Template → Prop}

theorem Query.Given.scope {P : GivenText → Prop} {query : Query} (given : query.Given P) :
    query.scope.Given P :=
  given.tables

/-- The body of a query whose source and conditions have the property. -/
theorem Query.bodyTemplate_closed (closed : Closed dialect R) {query : Query}
    (given : query.Given (Closed.Allows R))
    (source : ∀ {origin}, query.source.template dialect = .ok origin → R origin)
    (filters : ∀ {templates}, Predicate.templates dialect query.scope query.filters =
      .ok templates → ∀ template ∈ templates, R template)
    (havings : ∀ {templates}, Predicate.templates dialect query.scope query.havings =
      .ok templates → ∀ template ∈ templates, R template)
    {body : BodyTemplate} (compiled : query.bodyTemplate dialect = .ok body) :
    R body.clauses ∧ ∀ slot ∈ body.layout, R (Template.text slot.sql) := by
  rw [Query.bodyTemplate_eq] at compiled
  obtain ⟨-, -, compiled⟩ := Attempt.bind_eq_ok.1 compiled
  obtain ⟨layout, slots, compiled⟩ := Attempt.bind_eq_ok.1 compiled
  obtain ⟨origin, started, compiled⟩ := Attempt.bind_eq_ok.1 compiled
  obtain ⟨introduced, joined, compiled⟩ := Attempt.bind_eq_ok.1 compiled
  obtain ⟨filter, filtered, compiled⟩ := Attempt.bind_eq_ok.1 compiled
  obtain ⟨grouping, grouped, compiled⟩ := Attempt.bind_eq_ok.1 compiled
  obtain ⟨having, held, done⟩ := Attempt.bind_eq_ok.1 compiled
  cases Attempt.pure_eq_ok.1 done
  refine ⟨?_, closed.layout given slots⟩
  have opening : R (Template.text " FROM ") := closed.word (by decide)
  have sources := closed.append opening (closed.fromTemplate given (source started) joined)
  have groups : R (Template.conditionClause " HAVING " having.toList) :=
    closed.conditionClause (by decide) (closed.conjunction held fun _ => havings)
  apply closed.append _ groups
  apply closed.append _ (closed.groupClause given grouped)
  apply closed.append sources
  apply closed.conditionClause (by decide)
  intro condition member
  rcases List.mem_append.1 member with implicit | own
  · obtain ⟨sql, inside, rfl⟩ := List.mem_map.1 implicit
    exact closed.implicitConditions given sql inside
  · exact closed.conjunction filtered (fun _ => filters) condition own

mutual

theorem Test.template_closed (closed : Closed dialect R) {scope : Scope} {template : Template}
    (tables : scope.Given (Closed.Allows R)) : (test : Test) →
    (∀ text ∈ test.givenTexts, Closed.Allows R text) →
    test.template dialect scope = .ok template → R template
  | .compareValue spec operator value, given, compiled => by
      obtain ⟨column, resolved, rest⟩ := Attempt.bind_eq_ok.1 compiled
      exact closed.valueTest (tables.resolve given resolved) rest
  | .compareRaw spec operator sql, given, compiled => by
      obtain ⟨column, resolved, rest⟩ := Attempt.bind_eq_ok.1 compiled
      cases Attempt.pure_eq_ok.1 rest
      obtain ⟨verbatim, own⟩ := List.forall_mem_cons.1 given
      exact closed.rawTest (tables.resolve own resolved) operator verbatim
  | .compareQuery spec operator query, given, compiled => by
      obtain ⟨column, resolved, rest⟩ := Attempt.bind_eq_ok.1 compiled
      obtain ⟨nested, inner, rest⟩ := Attempt.bind_eq_ok.1 rest
      cases Attempt.pure_eq_ok.1 rest
      obtain ⟨own, below⟩ := List.forall_mem_append.1 given
      exact closed.queryTest (tables.resolve own resolved) (closed.operator operator)
        (query.selectTemplate_closed closed below inner)
  | .inList spec operator values, given, compiled => by
      obtain ⟨column, resolved, rest⟩ := Attempt.bind_eq_ok.1 compiled
      exact closed.listTest (tables.resolve given resolved) rest
  | .inQuery spec operator query, given, compiled => by
      obtain ⟨column, resolved, rest⟩ := Attempt.bind_eq_ok.1 compiled
      obtain ⟨-, -, rest⟩ := Attempt.bind_eq_ok.1 rest
      obtain ⟨nested, inner, rest⟩ := Attempt.bind_eq_ok.1 rest
      cases Attempt.pure_eq_ok.1 rest
      obtain ⟨own, below⟩ := List.forall_mem_append.1 given
      exact closed.queryTest (tables.resolve own resolved) (closed.membership operator)
        (query.selectTemplate_closed closed below inner)
  | .raw sql, given, compiled => by
      cases compiled
      exact given (.raw sql) List.mem_cons_self

theorem Predicate.template_closed (closed : Closed dialect R) {scope : Scope}
    {template : Template} (tables : scope.Given (Closed.Allows R)) : (predicate : Predicate) →
    (∀ text ∈ predicate.givenTexts, Closed.Allows R text) →
    predicate.template dialect scope = .ok template → R template
  | .leaf settings test, given, compiled => by
      obtain ⟨own, below⟩ := List.forall_mem_append.1 given
      exact test.template_closed closed (tables.enter own) below compiled
  | .node settings connective children, given, compiled => by
      obtain ⟨templates, ran, rest⟩ := Attempt.bind_eq_ok.1 compiled
      cases Attempt.pure_eq_ok.1 rest
      obtain ⟨own, below⟩ := List.forall_mem_append.1 given
      exact closed.combine connective
        (Predicate.templates_closed closed (tables.enter own) children below ran)

theorem Predicate.templates_closed (closed : Closed dialect R) {scope : Scope}
    {templates : List Template} (tables : scope.Given (Closed.Allows R)) :
    (children : List Predicate) →
    (∀ text ∈ Predicate.givenTextsOfAll children, Closed.Allows R text) →
    Predicate.templates dialect scope children = .ok templates →
    ∀ template ∈ templates, R template
  | [], _, compiled => by
      cases compiled
      simp
  | child :: children, given, compiled => by
      obtain ⟨first, ran, rest⟩ := Attempt.bind_eq_ok.1 compiled
      obtain ⟨others, ranOthers, done⟩ := Attempt.bind_eq_ok.1 rest
      cases Attempt.pure_eq_ok.1 done
      obtain ⟨own, below⟩ := List.forall_mem_append.1 given
      exact List.forall_mem_cons.2 ⟨child.template_closed closed tables own ran,
        Predicate.templates_closed closed tables children below ranOthers⟩

theorem Source.template_closed (closed : Closed dialect R) {origin : Template} :
    (source : Source) → (∀ text ∈ source.givenTexts, Closed.Allows R text) →
    source.template dialect = .ok origin → R origin
  | .table ref, given, compiled => by
      cases compiled
      exact closed.fromSql given
  | .derived ref query, given, compiled => by
      obtain ⟨-, -, rest⟩ := Attempt.bind_eq_ok.1 compiled
      obtain ⟨nested, inner, rest⟩ := Attempt.bind_eq_ok.1 rest
      cases Attempt.pure_eq_ok.1 rest
      obtain ⟨own, below⟩ := List.forall_mem_append.1 given
      have rows := closed.parenthesized (query.selectTemplate_closed closed below inner)
      have name := closed.glue (closed.word (by decide) : R (.text " AS ")) (own _ ref.name_mem)
      exact closed.append rows name

theorem Query.selectTemplate_closed (closed : Closed dialect R) {template : Template} :
    (query : Query) → (∀ text ∈ query.givenTexts, Closed.Allows R text) →
    query.selectTemplate dialect = .ok template → R template
  | { source, filters, havings, .. }, given, compiled => by
      have clauses := Query.given_iff.2 given
      obtain ⟨body, ran, selected⟩ := Attempt.bind_eq_ok.1 compiled
      have parts := Query.bodyTemplate_closed closed clauses
        (source.template_closed closed clauses.source)
        (Predicate.templates_closed closed clauses.scope filters clauses.filters)
        (Predicate.templates_closed closed clauses.scope havings clauses.havings) ran
      exact closed.selectTemplateWith clauses parts.1 parts.2 selected

end

/-- The texts that the column of an assignment brings along. -/
def Assignment.Given (P : GivenText → Prop) (assignment : Assignment) : Prop :=
  ∀ text ∈ assignment.column.givenTexts, P text

namespace Query

/-- The body of a query whose texts have the property. -/
theorem body_closed (closed : Closed dialect R) {query : Query}
    (given : query.Given (Closed.Allows R)) {body : BodyTemplate}
    (compiled : query.bodyTemplate dialect = .ok body) :
    R body.clauses ∧ ∀ slot ∈ body.layout, R (Template.text slot.sql) :=
  bodyTemplate_closed closed given (query.source.template_closed closed given.source)
    (Predicate.templates_closed closed given.scope query.filters given.filters)
    (Predicate.templates_closed closed given.scope query.havings given.havings) compiled

theorem countTemplate_closed (closed : Closed dialect R) {query : Query}
    (given : query.Given (Closed.Allows R)) {template : Template}
    (compiled : query.countTemplate dialect = .ok template) : R template := by
  obtain ⟨body, ran, rest⟩ := Attempt.bind_eq_ok.1 compiled
  have parts := query.body_closed closed given ran
  have count : R (Template.text "SELECT COUNT(*)") :=
    closed.glue (closed.word (by decide) : R (Template.text "SELECT COUNT"))
      (closed.enclosed (closed.word (by decide) : R (Template.text "*")))
  split at rest
  next =>
    obtain ⟨selected, inner, done⟩ := Attempt.bind_eq_ok.1 rest
    cases Attempt.pure_eq_ok.1 done
    have front := closed.glue count (closed.word (by decide) : R (Template.text " FROM "))
    have rows := closed.parenthesized (closed.selectTemplateWith given parts.1 parts.2 inner)
    exact closed.append (closed.append front rows) (closed.word (by decide))
  next =>
    cases Attempt.pure_eq_ok.1 rest
    exact closed.append count parts.1

theorem mutationTarget_eq {query : Query} {mutation : Mutation} {table : TableRef}
    (target : query.mutationTarget mutation = .ok table) : query.source = .table table := by
  unfold mutationTarget at target
  split at target
  next ref same =>
    split at target
    next => cases target; exact same
    next => cases target
  next => cases target

/-- The table of a mutation is the query's own. -/
theorem Given.target {P : GivenText → Prop} {query : Query} (given : query.Given P)
    {mutation : Mutation} {table : TableRef}
    (target : query.mutationTarget mutation = .ok table) : ∀ text ∈ table.givenTexts, P text := by
  have source := given.source
  rw [mutationTarget_eq target] at source
  exact source

theorem mutationTemplate_closed (closed : Closed dialect R) {query : Query}
    (given : query.Given (Closed.Allows R)) {mutation : Mutation} {table : TableRef}
    (target : query.mutationTarget mutation = .ok table) {condition : Option Template}
    (compiled : query.mutationTemplate dialect table = .ok condition) :
    ∀ template ∈ condition.toList, R template := by
  have tables : (query.mutationScope table).Given (Closed.Allows R) := by
    intro ref member
    rcases List.mem_append.1 member with source | own
    · cases List.mem_singleton.1 source
      exact given.target target
    · cases List.mem_singleton.1 own
      exact given.primary
  exact closed.conjunction compiled fun _ =>
    Predicate.templates_closed closed tables query.filters given.filters

theorem deleteTemplate_closed (closed : Closed dialect R) {query : Query}
    (given : query.Given (Closed.Allows R)) {template : Template}
    (compiled : query.deleteTemplate dialect = .ok template) : R template := by
  obtain ⟨table, target, rest⟩ := Attempt.bind_eq_ok.1 compiled
  obtain ⟨condition, filtered, done⟩ := Attempt.bind_eq_ok.1 rest
  cases Attempt.pure_eq_ok.1 done
  have name := given.target target _ table.name_mem
  have conditions := mutationTemplate_closed closed given target filtered
  have front := closed.glue (closed.word (by decide) : R (Template.text "DELETE FROM ")) name
  exact closed.append front (closed.conditionClause (by decide) conditions)

end Query

/-- Assignments are resolved on the table alone. -/
theorem givenTexts_of_resolveAssignments {P : GivenText → Prop} {mutation : Mutation}
    {table : TableRef} {assignments : List Assignment} {assigned : List Assigned}
    (own : ∀ text ∈ table.givenTexts, P text)
    (given : ∀ assignment ∈ assignments, assignment.Given P)
    (resolved : resolveAssignments mutation table assignments = .ok assigned) :
    ∀ entry ∈ assigned, ∀ text ∈ entry.column.givenTexts, P text := by
  obtain ⟨-, ran⟩ := Query.resolveAssignments_eq_ok_iff.1 resolved
  intro entry member
  obtain ⟨assignment, inside, found⟩ := Attempt.exists_of_mem_mapM ran member
  obtain ⟨column, looked, rfl⟩ := Attempt.map_eq_ok.1 found
  apply ColumnSpec.givenTexts_of_resolve looked (given assignment inside)
  intro ref here
  cases List.mem_singleton.1 here
  exact own

theorem Template.Closed.assigned (closed : Closed dialect R) (assigned : Assigned) :
    R assigned.template := by
  unfold Assigned.template
  split
  next datum _ => exact closed.value assigned.column datum
  next => exact closed.word (by decide)

namespace Query

theorem updateTemplate_closed (closed : Closed dialect R) {query : Query}
    (given : query.Given (Closed.Allows R)) {assignments : List Assignment}
    (columns : ∀ assignment ∈ assignments, assignment.Given (Closed.Allows R))
    {template : Template}
    (compiled : query.updateTemplate assignments dialect = .ok template) : R template := by
  obtain ⟨table, target, rest⟩ := Attempt.bind_eq_ok.1 compiled
  obtain ⟨assigned, resolved, rest⟩ := Attempt.bind_eq_ok.1 rest
  obtain ⟨condition, filtered, done⟩ := Attempt.bind_eq_ok.1 rest
  cases Attempt.pure_eq_ok.1 done
  have own := given.target target
  have names := givenTexts_of_resolveAssignments own columns resolved
  have conditions := mutationTemplate_closed closed given target filtered
  have keyword : R (Template.text "UPDATE ") := closed.word (by decide)
  have front := closed.glue (closed.glue keyword (own _ table.name_mem))
    (closed.word (by decide) : R (Template.text " SET "))
  apply closed.append _ (closed.conditionClause (by decide) conditions)
  apply closed.append front
  apply closed.join (closed.word (by decide))
  intro setting member
  obtain ⟨entry, inside, rfl⟩ := List.mem_map.1 member
  have name := names entry inside (.name entry.column.column.name) List.mem_cons_self
  exact closed.append (closed.glue name (closed.word (by decide))) (closed.assigned entry)

theorem insertTemplate_closed (closed : Closed dialect R) {query : Query}
    (given : query.Given (Closed.Allows R)) {assignments : List Assignment}
    (columns : ∀ assignment ∈ assignments, assignment.Given (Closed.Allows R))
    {template : Template}
    (compiled : query.insertTemplate assignments = .ok template) : R template := by
  obtain ⟨table, target, rest⟩ := Attempt.bind_eq_ok.1 compiled
  obtain ⟨assigned, resolved, done⟩ := Attempt.bind_eq_ok.1 rest
  cases Attempt.pure_eq_ok.1 done
  have own := given.target target
  have names := givenTexts_of_resolveAssignments own columns resolved
  have list : R (Template.text (", ".intercalate
      (assigned.map fun entry => entry.column.column.name))) := by
    apply closed.intercalate (closed.word (by decide))
    intro name member
    obtain ⟨entry, inside, rfl⟩ := List.mem_map.1 member
    exact names entry inside (.name entry.column.column.name) List.mem_cons_self
  have keyword : R (Template.text "INSERT INTO ") := closed.word (by decide)
  have name : R (Template.text table.table.name) := own _ table.name_mem
  have front := closed.glue (closed.glue keyword name)
    (closed.word (by decide) : R (Template.text " "))
  have whole := closed.glue (closed.glue front (closed.enclosed list))
    (closed.word (by decide) : R (Template.text " VALUES "))
  have opening : (" (" : String) = " " ++ "(" := rfl
  have closing : (") VALUES " : String) = ")" ++ " VALUES " := rfl
  apply closed.append
  · simpa only [opening, closing, String.append_assoc] using whole
  · apply closed.parenthesized
    apply closed.join (closed.word (by decide))
    intro value member
    obtain ⟨entry, -, rfl⟩ := List.mem_map.1 member
    exact closed.assigned entry

end Query

theorem Predicate.buildTemplate_closed (closed : Closed dialect R) {predicate : Predicate}
    (given : ∀ text ∈ predicate.givenTexts, Closed.Allows R text) {template : Template}
    (compiled : predicate.buildTemplate dialect = .ok template) : R template := by
  unfold buildTemplate at compiled
  split at compiled
  next => cases compiled; exact closed.word (by decide)
  next =>
    refine predicate.template_closed closed ?_ given compiled
    intro ref member
    cases member

end PreparedSql
