import PreparedSql.Proofs.Characters
import PreparedSql.Proofs.GivenText
import PreparedSql.Proofs.Template.Compiled

/-! What every template of a compiler has when its parts have it: a property of templates that
holds of the compiler's own words, of the caller's texts and of the dialect's, and that writing
pieces behind one another or into parentheses keeps. -/

namespace PreparedSql

namespace Template

/-- A property that compiling for the dialect keeps. -/
structure Closed (dialect : Dialect) (R : Template → Prop) : Prop where
  nil : R []
  append : ∀ {first second : Template}, R first → R second → R (first ++ second)
  parenthesized : ∀ {template : Template}, R template → R (parenthesized template)
  /-- Texts written behind one another count as one text. -/
  glue : ∀ {first second : String}, R (text first) → R (text second) → R (text (first ++ second))
  enclosed : ∀ {sql : String}, R (text sql) → R (text ("(" ++ sql ++ ")"))
  word : ∀ {sql : String}, Harmless sql → R (text sql)
  foldCase : ∀ {sql : String}, R (text sql) → R (text (dialect.foldCase sql))
  foldOrder : ∀ {sql : String}, R (text sql) → R (text (dialect.foldOrder sql))
  foldedOperator : ∀ {operator : Comparison} {folded : String},
    dialect.foldedOperator operator = some folded → R (text folded)
  limitClause : ∀ {limit offset : Option Nat} {clause : String},
    dialect.limitClause limit offset = .ok clause → R (text clause)
  value : ∀ (column : QualifiedColumn) (datum : Datum), R [.value id column datum]
  foldedValue : ∀ (column : QualifiedColumn) (datum : Datum),
    R [.value dialect.foldCase column datum]

namespace Closed

variable {dialect : Dialect} {R : Template → Prop}

/-- The caller's text has the property when it stands alone. -/
abbrev Allows (R : Template → Prop) (given : GivenText) : Prop :=
  R (text given.content)

theorem intercalate (closed : Closed dialect R) {separator : String}
    (between : R (text separator)) {texts : List String}
    (each : ∀ sql ∈ texts, R (text sql)) : R (text (separator.intercalate texts)) := by
  induction texts with
  | nil => rw [String.intercalate_nil]; exact closed.word (by decide)
  | cons first others ih =>
    have front := each first List.mem_cons_self
    have rest := ih fun sql member => each sql (List.mem_cons_of_mem first member)
    cases others with
    | nil => simpa only [String.intercalate_singleton] using front
    | cons second others =>
      rw [String.intercalate_cons_cons]
      exact closed.glue (closed.glue front between) rest

theorem join (closed : Closed dialect R) {separator : String}
    (between : R (text separator)) {templates : List Template}
    (each : ∀ template ∈ templates, R template) : R (join separator templates) := by
  induction templates with
  | nil => exact closed.nil
  | cons first others ih =>
    have front := each first List.mem_cons_self
    have rest := ih fun sql member => each sql (List.mem_cons_of_mem first member)
    cases others with
    | nil => simpa only [Template.join, List.intercalate_singleton] using front
    | cons second others =>
      rw [join_cons_cons]
      exact closed.append (closed.append front between) rest

theorem joinTexts (closed : Closed dialect R) {texts : List String}
    (each : ∀ sql ∈ texts, R (text sql)) : R (text (String.join texts)) := by
  induction texts with
  | nil => exact closed.word (by decide)
  | cons first others ih =>
    rw [String.join_cons]
    exact closed.glue (each first List.mem_cons_self)
      (ih fun sql member => each sql (List.mem_cons_of_mem first member))

theorem combine (closed : Closed dialect R) (connective : Connective)
    {templates : List Template} (each : ∀ template ∈ templates, R template) :
    R (Template.combine connective templates) := by
  match templates with
  | [] => exact closed.word (by cases connective <;> decide)
  | [only] => exact each only List.mem_cons_self
  | first :: second :: rest =>
    exact closed.parenthesized
      (closed.join (closed.word (by cases connective <;> decide)) each)

theorem conditionClause (closed : Closed dialect R) {keyword : String}
    (harmless : Harmless keyword) {conditions : List Template}
    (each : ∀ condition ∈ conditions, R condition) :
    R (Template.conditionClause keyword conditions) := by
  cases conditions with
  | nil => exact closed.word (by decide)
  | cons first rest =>
    exact closed.append (closed.word harmless) (closed.join (closed.word (by decide)) each)

theorem conjunction (closed : Closed dialect R) {predicates : List Predicate}
    {templates : Except CompileError (List Template)} {condition : Option Template}
    (compiled : Template.conjunction predicates templates = .ok condition)
    (each : ∀ conditions, templates = .ok conditions → ∀ template ∈ conditions, R template) :
    ∀ template ∈ condition.toList, R template := by
  unfold Template.conjunction at compiled
  split at compiled
  next => cases compiled; simp
  next =>
    obtain ⟨conditions, ran, rfl⟩ := Attempt.map_eq_ok.1 compiled
    intro template member
    cases List.mem_singleton.1 member
    exact closed.combine .and (each conditions ran)

/-- A column qualified by the label of its table. -/
theorem column (closed : Closed dialect R) {column : QualifiedColumn}
    (given : ∀ given ∈ column.givenTexts, Allows R given) : R (text column.sql) :=
  closed.glue
    (closed.glue (given _ (List.mem_cons_of_mem _ column.table.name_label_mem))
      (closed.word (by decide)))
    (given (.name column.column.name) List.mem_cons_self)

theorem fromSql (closed : Closed dialect R) {ref : TableRef}
    (given : ∀ given ∈ ref.givenTexts, Allows R given) : R (text ref.fromSql) := by
  have name : R (text ref.table.name) := given _ ref.name_mem
  unfold TableRef.fromSql
  split
  next aliasName same =>
    refine closed.glue (closed.glue name (closed.word (by decide)))
      (given (.name aliasName) (List.mem_append_right _ ?_))
    simp [same]
  next => exact name

theorem columns (closed : Closed dialect R) {columns : List QualifiedColumn}
    (given : ∀ column ∈ columns, ∀ given ∈ column.givenTexts, Allows R given) :
    R (text (", ".intercalate (columns.map QualifiedColumn.sql))) := by
  refine closed.intercalate (closed.word (by decide)) fun sql member => ?_
  obtain ⟨column, inside, rfl⟩ := List.mem_map.1 member
  exact closed.column (given column inside)

theorem pair (closed : Closed dialect R) {pair : ColumnPair}
    (given : ∀ given ∈ pair.left.givenTexts ++ pair.right.givenTexts, Allows R given) :
    R (text pair.sql) ∧ R (text (pair.foldedSql dialect)) := by
  rw [List.forall_mem_append] at given
  have left := closed.column given.1
  have right := closed.column given.2
  have folded {column : QualifiedColumn} (plain : R (text column.sql)) :
      R (text (column.foldedSql dialect)) := by
    unfold QualifiedColumn.foldedSql
    split
    next => exact closed.foldCase plain
    next => exact plain
  have equals : R (text "=") := closed.word (by decide)
  exact ⟨closed.glue (closed.glue left equals) right,
    closed.glue (closed.glue (folded left) equals) (folded right)⟩

theorem condition (closed : Closed dialect R) {entry : JoinEntry}
    (given : ∀ given ∈ entry.givenTexts, Allows R given) (ignoreCase : Bool) :
    R (text (entry.join.condition dialect ignoreCase)) := by
  refine closed.intercalate (closed.word (by decide)) fun sql member => ?_
  obtain ⟨joined, inside, rfl⟩ := List.mem_map.1 member
  have both := closed.pair fun text here => given text (List.mem_flatMap.2 ⟨joined, inside, here⟩)
  cases ignoreCase
  · exact both.1
  · exact both.2

theorem clause (closed : Closed dialect R) {entry : JoinEntry} {sql : String}
    (given : ∀ given ∈ entry.givenTexts, Allows R given)
    (written : entry.join.clause? dialect = some sql) : R (text sql) := by
  obtain ⟨keyword, explicit, rfl⟩ := Option.map_eq_some_iff.1 written
  have word : R (text keyword) := by
    cases same : entry.join.kind <;> rw [same] at explicit <;> cases explicit <;>
      exact closed.word (by decide)
  have right : R (text entry.join.rightTable.fromSql) :=
    closed.fromSql (JoinEntry.givenTexts_of_mem_tables
      (List.mem_pair.2 (Or.inr rfl)) given)
  have enclosed := closed.enclosed (closed.condition given false)
  have front := closed.glue (closed.glue (closed.glue word (closed.word (by decide) : R (text " ")))
    right) (closed.word (by decide) : R (text " ON "))
  have whole := closed.glue front enclosed
  have opening : (" ON (" : String) = " ON " ++ "(" := rfl
  simpa only [opening, String.append_assoc] using whole

variable {query : Query}

theorem listedTables (closed : Closed dialect R) (given : query.Given (Allows R)) :
    ∀ ref ∈ query.listedTables, R (text ref.fromSql) := by
  intro ref member
  have listed := List.mem_of_mem_drop (List.mem_of_mem_filter member)
  refine closed.fromSql ?_
  rcases mem_addSources listed with first | joined
  · cases List.mem_singleton.1 first
    exact given.primary
  · obtain ⟨entry, inside, here⟩ := List.mem_flatMap.1 joined
    exact JoinEntry.givenTexts_of_mem_tables here
      (given.joins entry (List.mem_of_mem_filter inside))

theorem fromTemplate (closed : Closed dialect R) (given : query.Given (Allows R))
    {origin introduced : Template} (source : R origin)
    (compiled : query.fromTemplate dialect origin = .ok introduced) : R introduced := by
  unfold Query.fromTemplate at compiled
  split at compiled
  next => cases compiled
  next =>
    cases compiled
    apply closed.append
    · apply closed.join (closed.word (by decide))
      intro template member
      rcases List.mem_cons.1 member with rfl | listed
      · exact source
      · obtain ⟨ref, inside, rfl⟩ := List.mem_map.1 listed
        exact closed.listedTables given ref inside
    · apply closed.joinTexts
      intro sql member
      obtain ⟨clause, inside, rfl⟩ := List.mem_map.1 member
      obtain ⟨entry, joined, written⟩ := List.mem_filterMap.1 inside
      have own := closed.clause (given.joins entry joined) written
      exact closed.glue (closed.word (by decide)) own

theorem implicitConditions (closed : Closed dialect R) (given : query.Given (Allows R)) :
    ∀ sql ∈ query.implicitConditions dialect, R (text sql) := by
  intro sql member
  obtain ⟨entry, inside, rfl⟩ := List.mem_map.1 member
  exact closed.condition (given.joins entry (List.mem_of_mem_filter inside)) query.foldsCase

theorem groupClause (closed : Closed dialect R) (given : query.Given (Allows R))
    {clause : String} (compiled : query.groupClause = .ok clause) : R (text clause) := by
  unfold Query.groupClause at compiled
  split at compiled
  next => cases compiled; exact closed.word (by decide)
  next =>
    obtain ⟨columns, resolved, rfl⟩ := Attempt.map_eq_ok.1 compiled
    apply closed.glue (closed.word (by decide))
    apply closed.columns
    intro column member
    obtain ⟨spec, inside, found⟩ := Attempt.exists_of_mem_mapM resolved member
    exact given.resolve (given.grouping spec inside) found

theorem orderSql (closed : Closed dialect R) (given : query.Given (Allows R))
    {target : OrderTarget} (own : ∀ text ∈ target.givenTexts, Allows R text) {sql : String}
    (compiled : query.orderSql dialect target = .ok sql) : R (text sql) := by
  cases target with
  | raw verbatim =>
    cases compiled
    exact own (.raw sql) List.mem_cons_self
  | column spec =>
    obtain ⟨column, resolved, rfl⟩ := Attempt.map_eq_ok.1 compiled
    have plain := closed.column (given.resolve own resolved)
    split
    next => exact closed.foldOrder plain
    next => exact plain

theorem orderClause (closed : Closed dialect R) (given : query.Given (Allows R))
    {clause : String} (compiled : query.orderClause dialect = .ok clause) : R (text clause) := by
  unfold Query.orderClause at compiled
  split at compiled
  next => cases compiled; exact closed.word (by decide)
  next entries =>
    obtain ⟨keys, sorted, rest⟩ := Attempt.bind_eq_ok.1 compiled
    cases Attempt.pure_eq_ok.1 rest
    apply closed.glue (closed.word (by decide))
    apply closed.intercalate (closed.word (by decide))
    intro key member
    obtain ⟨entry, inside, ran⟩ := Attempt.exists_of_mem_mapM sorted member
    obtain ⟨sql, target, rfl⟩ := Attempt.map_eq_ok.1 ran
    have expression := closed.orderSql given (given.ordering entry inside) target
    have direction : R (text entry.direction.keyword) :=
      closed.word (by cases entry.direction <;> decide)
    exact closed.glue (closed.glue expression (closed.word (by decide))) direction

theorem limiting (closed : Closed dialect R) {limit offset : Option Nat} {clause : String}
    (compiled : dialect.limiting limit offset = .ok clause) : R (text clause) := by
  unfold Dialect.limiting at compiled
  split at compiled
  next written same =>
    cases compiled
    exact closed.limitClause same
  next => cases compiled

/-- Every slot of the SELECT list. -/
theorem layout (closed : Closed dialect R) (given : query.Given (Allows R))
    {layout : List Slot} (compiled : query.layout = .ok layout) :
    ∀ slot ∈ layout, R (text slot.sql) := by
  have all {ref : TableRef} (own : ∀ text ∈ ref.givenTexts, Allows R text) :
      ∀ slot ∈ ref.columns.map Slot.column, R (text slot.sql) := by
    intro slot member
    obtain ⟨column, inside, rfl⟩ := List.mem_map.1 member
    exact closed.column (TableRef.givenTexts_of_mem_columns inside own)
  unfold Query.layout at compiled
  split at compiled
  next =>
    cases compiled
    exact all given.primary
  next entries =>
    obtain ⟨parts, ran, rfl⟩ := Attempt.map_eq_ok.1 compiled
    intro slot member
    obtain ⟨slots, inside, here⟩ := List.mem_flatten.1 member
    obtain ⟨entry, selected, found⟩ := Attempt.exists_of_mem_mapM ran inside
    have own := given.selection entry selected
    cases entry with
    | all table =>
      cases found
      exact all own slot here
    | column spec =>
      obtain ⟨column, resolved, rfl⟩ := Attempt.map_eq_ok.1 found
      cases List.mem_singleton.1 here
      exact closed.column (given.resolve own resolved)
    | raw sql =>
      cases found
      cases List.mem_singleton.1 here
      exact own (.raw sql) List.mem_cons_self

theorem selectTemplateWith (closed : Closed dialect R) (given : query.Given (Allows R))
    {body : BodyTemplate} {template : Template} (clauses : R body.clauses)
    (slots : ∀ slot ∈ body.layout, R (text slot.sql))
    (compiled : query.selectTemplateWith dialect body = .ok template) : R template := by
  obtain ⟨ordering, ordered, rest⟩ := Attempt.bind_eq_ok.1 compiled
  obtain ⟨limiting, limited, done⟩ := Attempt.bind_eq_ok.1 rest
  cases Attempt.pure_eq_ok.1 done
  have behind := closed.glue (closed.orderClause given ordered) (closed.limiting limited)
  have list : R (text (query.selectList body.layout)) := by
    unfold Query.selectList
    apply closed.glue
    · split <;> exact closed.word (by decide)
    · apply closed.intercalate (closed.word (by decide))
      intro sql member
      obtain ⟨slot, inside, rfl⟩ := List.mem_map.1 member
      exact slots slot inside
  have front := closed.glue (closed.word (by decide) : R (text "SELECT ")) list
  exact closed.append (closed.append front clauses) behind

variable {column : QualifiedColumn}

theorem operator (closed : Closed dialect R) (operator : Comparison) : R (text operator.sql) :=
  closed.word (by cases operator <;> decide)

/-- What stands in front of the right side of a test. -/
theorem spaced (closed : Closed dialect R) {left word : String} (front : R (text left))
    (own : R (text word)) : R (text (left ++ " " ++ word ++ " ")) := by
  have space : R (text " ") := closed.word (by decide)
  exact closed.glue (closed.glue (closed.glue front space) own) space

theorem valueTest (closed : Closed dialect R) {ignoreCase : Bool} {operator : Comparison}
    {value : Value} {template : Template} (given : ∀ text ∈ column.givenTexts, Allows R text)
    (compiled : Template.valueTest dialect ignoreCase column operator value = .ok template) :
    R template := by
  have plain := closed.column given
  cases value with
  | none =>
    cases operator <;> cases compiled <;> exact closed.glue plain (closed.word (by decide))
  | some datum =>
    unfold Template.valueTest at compiled
    cases compiled
    split
    next =>
      split
      next folded same =>
        have front := closed.spaced plain (closed.foldedOperator same)
        exact closed.append front (closed.value column datum)
      next =>
        have front := closed.spaced (closed.foldCase plain) (closed.operator operator)
        exact closed.append front (closed.foldedValue column datum)
    next =>
      have front := closed.spaced plain (closed.operator operator)
      exact closed.append front (closed.value column datum)

theorem rawTest (closed : Closed dialect R) (given : ∀ text ∈ column.givenTexts, Allows R text)
    (operator : Comparison) {sql : String} (verbatim : R (text sql)) :
    R (Template.rawTest column operator sql) := by
  have front := closed.spaced (closed.column given) (closed.operator operator)
  exact closed.glue front verbatim

theorem queryTest (closed : Closed dialect R) (given : ∀ text ∈ column.givenTexts, Allows R text)
    {operator : String} (word : R (text operator)) {nested : Template} (inner : R nested) :
    R (Template.queryTest column operator nested) := by
  have front := closed.spaced (closed.column given) word
  exact closed.append front (closed.parenthesized inner)

theorem membership (closed : Closed dialect R) (operator : Membership) :
    R (text operator.sql) :=
  closed.word (by cases operator <;> decide)

theorem listTest (closed : Closed dialect R) {operator : Membership} {values : List Value}
    {template : Template} (given : ∀ text ∈ column.givenTexts, Allows R text)
    (compiled : Template.listTest column operator values = .ok template) : R template := by
  unfold Template.listTest at compiled
  split at compiled
  next =>
    cases compiled
    exact closed.word (by cases operator <;> decide)
  next =>
    split at compiled
    next => cases compiled
    next =>
      cases compiled
      have front := closed.spaced (closed.column given) (closed.membership operator)
      apply closed.append front
      apply closed.parenthesized
      apply closed.join (closed.word (by decide))
      intro template member
      obtain ⟨datum, -, rfl⟩ := List.mem_map.1 member
      exact closed.value column datum

end Closed

end Template

end PreparedSql
