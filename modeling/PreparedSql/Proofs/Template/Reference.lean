import PreparedSql.Proofs.Template.Basic
import PreparedSql.Query.Reading
import PreparedSql.Query.Writing

/-! The reference compilation: every statement as a template, in which each value stands at its
own place. Text and parameters are never kept apart here. -/

namespace PreparedSql

namespace Template

/-- A column against a value. A text column in a scope that ignores case takes the dialect's own
operator for it, or else the column and the value are both folded. NULL has a form of its own
for `=` and `!=`. -/
def valueTest (dialect : Dialect) (ignoreCase : Bool) (column : QualifiedColumn)
    (operator : Comparison) : Value → Except CompileError Template
  | some datum => .ok <|
      if ignoreCase && column.isText then
        match dialect.foldedOperator operator with
        | some folded => [.text (column.sql ++ " " ++ folded ++ " "), .value id column datum]
        | none =>
            [.text (dialect.foldCase column.sql ++ " " ++ operator.sql ++ " "),
              .value dialect.foldCase column datum]
      else [.text (column.sql ++ " " ++ operator.sql ++ " "), .value id column datum]
  | none =>
      match operator with
      | .equal => .ok (text (column.sql ++ " IS NULL"))
      | .notEqual => .ok (text (column.sql ++ " IS NOT NULL"))
      | _ => .error (.nullComparison column.sql operator.sql)

def rawTest (column : QualifiedColumn) (operator : Comparison) (sql : String) : Template :=
  text (column.sql ++ " " ++ operator.sql ++ " " ++ sql)

def queryTest (column : QualifiedColumn) (operator : String) (nested : Template) : Template :=
  text (column.sql ++ " " ++ operator ++ " ") ++ parenthesized nested

/-- A column against a list of values, none of which may be NULL. -/
def listTest (column : QualifiedColumn) (operator : Membership) (values : List Value) :
    Except CompileError Template :=
  if values.isEmpty then .ok (text operator.emptyList)
  else if values.any Value.isNull then .error (.nullComparison column.sql operator.sql)
  else .ok <|
    text (column.sql ++ " " ++ operator.sql ++ " ") ++
      parenthesized (join "," (values.reduceOption.map fun datum => [.value id column datum]))

end Template

/-- What follows the SELECT list up to HAVING. -/
structure BodyTemplate where
  layout : List Slot
  clauses : Template
  hasWhere : Bool

def BodyTemplate.body (template : BodyTemplate) : Body :=
  { layout := template.layout
    clauses := template.clauses.fragment
    hasWhere := template.hasWhere }

namespace Query

/-- The comma list and the JOIN clauses, given how the primary source is written. -/
def fromTemplate (query : Query) (dialect : Dialect) (origin : Template) :
    Except CompileError Template :=
  match query.joinedPrimary? with
  | some join => .error (.joinedPrimary join.rightTable.label)
  | none => .ok <|
      Template.join ", " (origin :: query.listedTables.map fun ref => .text ref.fromSql) ++
        .text (String.join ((query.joinClauses dialect).map (" " ++ ·)))

/-- The SELECT with the given body: the SELECT list in front, order and limit behind. -/
def selectTemplateWith (query : Query) (dialect : Dialect) (body : BodyTemplate) :
    Except CompileError Template := do
  let ordering ← query.orderClause dialect
  let limiting ← dialect.limiting query.rowLimit query.rowOffset
  return .text ("SELECT " ++ query.selectList body.layout) ++ body.clauses ++
    .text (ordering ++ limiting)

end Query

mutual

/-- A test in the scope that its settings make. -/
def Test.template (dialect : Dialect) (scope : Scope) : Test → Except CompileError Template
  | .compareValue spec operator value => do
      let column ← scope.resolve spec
      Template.valueTest dialect scope.ignoreCase column operator value
  | .compareRaw spec operator sql => do
      let column ← scope.resolve spec
      return Template.rawTest column operator sql
  | .compareQuery spec operator query => do
      let column ← scope.resolve spec
      let nested ← (query.bodyTemplate dialect).bind (query.selectTemplateWith dialect)
      return Template.queryTest column operator.sql nested
  | .inList spec operator values => do
      let column ← scope.resolve spec
      Template.listTest column operator values
  | .inQuery spec operator query => do
      let column ← scope.resolve spec
      dialect.checkMembership query.hasLimitOrOffset
      let nested ← (query.bodyTemplate dialect).bind (query.selectTemplateWith dialect)
      return Template.queryTest column operator.sql nested
  | .raw sql => .ok (.text sql)

def Predicate.template (dialect : Dialect) (scope : Scope) :
    Predicate → Except CompileError Template
  | .leaf settings test => test.template dialect (scope.enter settings)
  | .node settings connective children => do
      let templates ← Predicate.templates dialect (scope.enter settings) children
      return Template.combine connective templates

def Predicate.templates (dialect : Dialect) (scope : Scope) :
    List Predicate → Except CompileError (List Template)
  | [] => .ok []
  | child :: children => do
      let first ← child.template dialect scope
      let others ← Predicate.templates dialect scope children
      return first :: others

/-- The primary source as FROM introduces it. -/
def Source.template (dialect : Dialect) : Source → Except CompileError Template
  | .table ref => .ok (.text ref.fromSql)
  | .derived ref query => do
      dialect.checkDerivedTable
      let nested ← (query.bodyTemplate dialect).bind (query.selectTemplateWith dialect)
      return Template.parenthesized nested ++ .text (" AS " ++ ref.table.name)

/-- The clauses from FROM to HAVING, the values of a derived table in front. -/
def Query.bodyTemplate (dialect : Dialect) : Query → Except CompileError BodyTemplate
  | query@{ source, filters, havings, .. } => do
      Chain.check query.joins
      let layout ← query.layout
      let origin ← source.template dialect
      let introduced ← query.fromTemplate dialect origin
      let filter ← Template.conjunction filters
        (Predicate.templates dialect query.scope filters)
      let grouping ← query.groupClause
      let having ← Template.conjunction havings
        (Predicate.templates dialect query.scope havings)
      let conditions := (query.implicitConditions dialect).map Template.text ++ filter.toList
      return {
        layout
        clauses := .text " FROM " ++ introduced ++
          Template.conditionClause " WHERE " conditions ++ .text grouping ++
          Template.conditionClause " HAVING " having.toList
        hasWhere := !conditions.isEmpty }

end

namespace Query

/-- A SELECT of the query's rows. -/
def selectTemplate (query : Query) (dialect : Dialect) : Except CompileError Template :=
  (query.bodyTemplate dialect).bind (query.selectTemplateWith dialect)

/-- The number of rows. -/
def countTemplate (query : Query) (dialect : Dialect) : Except CompileError Template := do
  let body ← query.bodyTemplate dialect
  if query.countsRows then do
    let selected ← query.selectTemplateWith dialect body
    return .text "SELECT COUNT(*) FROM " ++ Template.parenthesized selected ++
      .text " AS count_subquery"
  else return .text "SELECT COUNT(*)" ++ body.clauses

/-- The WHERE condition of an UPDATE or DELETE. -/
def mutationTemplate (query : Query) (dialect : Dialect) (table : TableRef) :
    Except CompileError (Option Template) :=
  Template.conjunction query.filters
    (Predicate.templates dialect (query.mutationScope table) query.filters)

end Query

namespace Assigned

/-- A value for its column; NULL is written. -/
def template (assigned : Assigned) : Template :=
  match assigned.value with
  | some datum => [.value id assigned.column datum]
  | none => .text "NULL"

def setTemplate (assigned : Assigned) : Template :=
  .text (assigned.column.column.name ++ " = ") ++ assigned.template

end Assigned

namespace Query

def updateTemplate (query : Query) (assignments : List Assignment) (dialect : Dialect) :
    Except CompileError Template := do
  let table ← query.mutationTarget .update
  let assigned ← resolveAssignments .update table assignments
  let condition ← query.mutationTemplate dialect table
  return .text ("UPDATE " ++ table.table.name ++ " SET ") ++
    Template.join ", " (assigned.map Assigned.setTemplate) ++
    Template.conditionClause " WHERE " condition.toList

def deleteTemplate (query : Query) (dialect : Dialect) : Except CompileError Template := do
  let table ← query.mutationTarget .delete
  let condition ← query.mutationTemplate dialect table
  return .text ("DELETE FROM " ++ table.table.name) ++
    Template.conditionClause " WHERE " condition.toList

def insertTemplate (query : Query) (assignments : List Assignment) :
    Except CompileError Template := do
  let table ← query.mutationTarget .insert
  let assigned ← resolveAssignments .insert table assignments
  let names := assigned.map fun assigned => assigned.column.column.name
  return .text ("INSERT INTO " ++ table.table.name ++ " (" ++ ", ".intercalate names ++
      ") VALUES ") ++
    Template.parenthesized (Template.join ", " (assigned.map Assigned.template))

end Query

/-- A predicate on its own; an empty tree has no text. -/
def Predicate.buildTemplate (predicate : Predicate) (dialect : Dialect) :
    Except CompileError Template :=
  if predicate.isEmpty then .ok (.text "") else predicate.template dialect {}

end PreparedSql
