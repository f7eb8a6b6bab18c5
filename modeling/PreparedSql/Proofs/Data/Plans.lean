import PreparedSql.Dialect.Standard
import PreparedSql.Proofs.Data.Replace

/-! Data never get into the text of a statement. Two queries that differ in their data alone
have the same statements, apart from the data of the parameters. -/

namespace PreparedSql

variable (f : Datum → Datum)

theorem resolveAssignments_mapData (mutation : Mutation) (table : TableRef)
    (assignments : List Assignment) :
    resolveAssignments mutation table (assignments.map (Assignment.mapData f)) =
      (resolveAssignments mutation table assignments).map (List.map (Assigned.mapData f)) := by
  have each (assignment : Assignment) : (assignment.mapData f).resolve table =
      (assignment.resolve table).map (Assigned.mapData f) := by
    simp only [Assignment.resolve, Attempt.map_map]
    rfl
  unfold resolveAssignments
  rw [List.isEmpty_map]
  split
  next => rfl
  next => exact Attempt.mapM_map _ _ each assignments

theorem placeholder_mapData (assigned : Assigned) :
    (assigned.mapData f).placeholder = assigned.placeholder.mapData f := by
  obtain ⟨column, value⟩ := assigned
  cases value <;> rfl

theorem finishMutation_mapData (kind : StatementKind) (table : TableRef) (hasWhere : Bool)
    (fragment : Fragment) :
    finishMutation kind table hasWhere (fragment.mapData f) =
      (finishMutation kind table hasWhere fragment).map (Statement.mapData f) := by
  unfold finishMutation
  rw [Attempt.map_bind]
  rfl

theorem mutationCondition_mapData (dialect : Dialect) (query : Query) (table : TableRef) :
    (query.mapData f).mutationCondition dialect table =
      (query.mutationCondition dialect table).map (Option.map (Fragment.mapData f)) := by
  unfold Query.mutationCondition
  rw [Query.mutationScope_mapData, Query.filters_mapData, Predicate.compileAll_mapData,
    conjunction_mapDataAll]

namespace Query

variable (query : Query) (assignments : List Assignment) (dialect : Dialect)

theorem selectPlan_mapData :
    (query.mapData f).selectPlan dialect =
      (query.selectPlan dialect).map (SelectPlan.mapData f) := by
  unfold selectPlan
  simp only [body_mapData, primary_mapData, joins_mapData, Attempt.map_bind, Attempt.bind_map,
    selectWith_mapData, Attempt.map_pure]
  rfl

theorem countPlan_mapData :
    (query.mapData f).countPlan dialect =
      (query.countPlan dialect).map (Statement.mapData f) := by
  unfold countPlan
  simp only [body_mapData, primary_mapData, countsRows_mapData, Attempt.map_bind,
    Attempt.bind_map, selectWith_mapData]
  refine Attempt.bind_congr fun body => ?_
  split
  next =>
    cases query.selectWith dialect body with
    | error reason => rfl
    | ok selected =>
      refine congrArg Except.ok ?_
      simp [Statement.mapData, Body.mapData, Fragment.mapData, parenthesized]
  next =>
    refine congrArg Except.ok ?_
    simp [Statement.mapData, Body.mapData, Fragment.mapData]

theorem deletePlan_mapData :
    (query.mapData f).deletePlan dialect =
      (query.deletePlan dialect).map (Statement.mapData f) := by
  unfold deletePlan
  simp only [mutationTarget_mapData, mutationCondition_mapData, Attempt.map_bind, Attempt.bind_map,
    ← finishMutation_mapData, Fragment.mapData_append, Fragment.mapData_text,
    mapData_conditionClause, Option.isSome_map, Option.toList_map]

theorem updatePlan_mapData :
    (query.mapData f).updatePlan (assignments.map (Assignment.mapData f)) dialect =
      (query.updatePlan assignments dialect).map (Statement.mapData f) := by
  have settings (assigned : Assigned) :
      (assigned.mapData f).setClause = assigned.setClause.mapData f := by
    unfold Assigned.setClause
    rw [placeholder_mapData, Fragment.mapData_append]
    rfl
  unfold updatePlan
  simp only [mutationTarget_mapData, mutationCondition_mapData, resolveAssignments_mapData,
    Attempt.map_bind, Attempt.bind_map, ← finishMutation_mapData, Fragment.mapData_append,
    Fragment.mapData_text, Fragment.mapData_join, mapData_conditionClause, Option.isSome_map,
    Option.toList_map, List.map_map, Function.comp_def, settings]

theorem insertPlan_mapData :
    (query.mapData f).insertPlan (assignments.map (Assignment.mapData f)) =
      (query.insertPlan assignments).map (Statement.mapData f) := by
  unfold insertPlan
  simp only [mutationTarget_mapData, resolveAssignments_mapData, Attempt.map_bind,
    Attempt.bind_map, ← finishMutation_mapData, Fragment.mapData_append, Fragment.mapData_text,
    Fragment.mapData_join, mapData_parenthesized, List.map_map, Function.comp_def,
    placeholder_mapData]
  rfl

/-- What is left of a query when its data are blanked out, at every depth. NULL stays. -/
def skeleton : Query :=
  query.mapData fun _ => .bool false

end Query

def Assignment.skeleton (assignment : Assignment) : Assignment :=
  assignment.mapData fun _ => .bool false

/-- Statements that differ in the data of their parameters alone. -/
structure Statement.Alike (first second : Statement) : Prop where
  sql : first.sql = second.sql
  kind : first.kind = second.kind
  table : first.table = second.table
  hasWhere : first.hasWhere = second.hasWhere
  types : first.binds.map Bind.type = second.binds.map Bind.type

structure SelectPlan.Alike (first second : SelectPlan) : Prop where
  statement : first.statement.Alike second.statement
  layout : first.layout = second.layout
  primary : first.primary = second.primary
  joins : first.joins = second.joins

/-- Both fail for the same reason, or both succeed with related results. -/
inductive SameOutcome {α : Type} (Alike : α → α → Prop) :
    Except CompileError α → Except CompileError α → Prop where
  | error (reason : CompileError) : SameOutcome Alike (.error reason) (.error reason)
  | ok {first second : α} : Alike first second → SameOutcome Alike (.ok first) (.ok second)

theorem SameOutcome.of_map {α : Type} {Alike : α → α → Prop} {blank : α → α}
    (alike : ∀ first second, blank first = blank second → Alike first second)
    {first second : Except CompileError α} (same : first.map blank = second.map blank) :
    SameOutcome Alike first second := by
  cases first with
  | error reason =>
    cases second with
    | error other => cases same; exact .error reason
    | ok result => cases same
  | ok result =>
    cases second with
    | error other => cases same
    | ok other => exact .ok (alike result other (Except.ok.inj same))

namespace SameOutcome

variable {α β γ : Type} {Alike : α → α → Prop} {Also : β → β → Prop}
variable {first second third : Except CompileError α}

theorem refl (same : ∀ result, Alike result result) (outcome : Except CompileError α) :
    SameOutcome Alike outcome outcome := by
  cases outcome with
  | error reason => exact .error reason
  | ok result => exact .ok (same result)

/-- Outcomes that both compare with a third. -/
theorem of_both (one : SameOutcome Alike first third) (other : SameOutcome Alike second third)
    (meet : ∀ {a b c}, Alike a c → Alike b c → Alike a b) : SameOutcome Alike first second := by
  cases one with
  | error reason =>
    cases other
    exact .error reason
  | ok here =>
    cases other with
    | ok there => exact .ok (meet here there)

theorem map (same : SameOutcome Alike first second) {f g : α → β}
    (each : ∀ {a b}, Alike a b → Also (f a) (g b)) :
    SameOutcome Also (first.map f) (second.map g) := by
  cases same with
  | error reason => exact .error reason
  | ok alike => exact .ok (each alike)

theorem bind (same : SameOutcome Alike first second) {f g : α → Except CompileError β}
    (next : ∀ {a b}, Alike a b → SameOutcome Also (f a) (g b)) :
    SameOutcome Also (first >>= f) (second >>= g) := by
  cases same with
  | error reason => exact .error reason
  | ok alike => exact next alike

/-- After a step that both have in common. -/
theorem after {f g : α → Except CompileError β}
    (next : ∀ result, first = .ok result → SameOutcome Also (f result) (g result)) :
    SameOutcome Also (first >>= f) (first >>= g) := by
  cases first with
  | error reason => exact .error reason
  | ok result => exact next result rfl

theorem map_after {f g : α → β} (each : ∀ result, first = .ok result → Also (f result) (g result)) :
    SameOutcome Also (first.map f) (first.map g) := by
  cases first with
  | error reason => exact .error reason
  | ok result => exact .ok (each result rfl)

theorem mapM {f g : γ → Except CompileError α} {entries : List γ}
    (each : ∀ entry ∈ entries, SameOutcome Alike (f entry) (g entry)) :
    SameOutcome (List.Forall₂ Alike) (entries.mapM f) (entries.mapM g) := by
  induction entries with
  | nil => exact .ok .nil
  | cons entry entries ih =>
    obtain ⟨here, later⟩ := List.forall_mem_cons.1 each
    rw [List.mapM_cons, List.mapM_cons]
    exact here.bind fun alike => (ih later).bind fun rest => .ok (.cons alike rest)

end SameOutcome

theorem Statement.alike_of_blank {first second : Statement}
    (same : first.mapData f = second.mapData f) : first.Alike second := by
  cases first
  cases second
  simp only [mapData, Statement.mk.injEq] at same
  obtain ⟨sql, binds, kind, table, hasWhere⟩ := same
  have types := congrArg (List.map Bind.type) binds
  simp only [List.map_map] at types
  exact ⟨sql, kind, table, hasWhere, types⟩

theorem SelectPlan.alike_of_blank {first second : SelectPlan}
    (same : first.mapData f = second.mapData f) : first.Alike second := by
  cases first
  cases second
  simp only [mapData, SelectPlan.mk.injEq] at same
  obtain ⟨statement, layout, primary, joins⟩ := same
  exact ⟨Statement.alike_of_blank f statement, layout, primary, joins⟩

/-- Queries and assignments with the same skeleton have statements that are alike, and where the
one has none, the other has none for the same reason. -/
theorem plans_alike (dialect : Dialect) {first second : Query}
    (same : first.skeleton = second.skeleton) :
    SameOutcome SelectPlan.Alike (first.selectPlan dialect) (second.selectPlan dialect) ∧
      SameOutcome Statement.Alike (first.countPlan dialect) (second.countPlan dialect) ∧
      SameOutcome Statement.Alike (first.deletePlan dialect) (second.deletePlan dialect) ∧
      ∀ assignments others : List Assignment,
        assignments.map Assignment.skeleton = others.map Assignment.skeleton →
        SameOutcome Statement.Alike (first.updatePlan assignments dialect)
          (second.updatePlan others dialect) ∧
        SameOutcome Statement.Alike (first.insertPlan assignments)
          (second.insertPlan others) := by
  have statements (one other : Statement)
      (blank : one.mapData (fun _ => .bool false) = other.mapData fun _ => .bool false) :
      one.Alike other :=
    Statement.alike_of_blank _ blank
  refine ⟨?_, ?_, ?_, ?_⟩
  · apply SameOutcome.of_map fun one other => SelectPlan.alike_of_blank fun _ => .bool false
    rw [← Query.selectPlan_mapData, ← Query.selectPlan_mapData]
    exact congrArg (·.selectPlan dialect) same
  · apply SameOutcome.of_map statements
    rw [← Query.countPlan_mapData, ← Query.countPlan_mapData]
    exact congrArg (·.countPlan dialect) same
  · apply SameOutcome.of_map statements
    rw [← Query.deletePlan_mapData, ← Query.deletePlan_mapData]
    exact congrArg (·.deletePlan dialect) same
  · intro assignments others blank
    constructor
    · apply SameOutcome.of_map statements
      rw [← Query.updatePlan_mapData, ← Query.updatePlan_mapData]
      exact congrArg₂ (fun query given => query.updatePlan given dialect) same blank
    · apply SameOutcome.of_map statements
      rw [← Query.insertPlan_mapData, ← Query.insertPlan_mapData]
      exact congrArg₂ Query.insertPlan same blank

/-- A search for the given data: one compared, some in a list, one below in a sub-query. -/
def searchFor (compared inner : Datum) (listed : List Datum) : Query :=
  let notes : Table :=
    { name := "notes"
      columns := [{ name := "id", type := .integer }, { name := "text", type := .varchar }] }
  let below : Query :=
    { schema := ⟨"", [notes]⟩
      source := .table { table := notes }
      filters := [.compare (.named "text") .like inner] }
  { below with
    filters := [.inQuery (.named "id") .isIn below, .inList (.named "id") .notIn listed]
    havings := [.compare (.named "text") .notEqual compared]
    foldsCase := true }

/-- A new text for a note, and no number. -/
def noteOfText (text : Datum) : List Assignment :=
  [⟨.named "text", some text⟩, ⟨.named "id", none⟩]

theorem plans_alike_searchFor :
    (searchFor (.text "a") (.text "b") [.int 1]).skeleton =
        (searchFor (.text "'; --") (.text "?") [.int 2]).skeleton ∧
      (noteOfText (.text "c")).map Assignment.skeleton =
        (noteOfText (.text "'?'")).map Assignment.skeleton ∧
      ((searchFor (.text "a") (.text "b") [.int 1]).selectPlan .mysql).isOk = true ∧
      SameOutcome SelectPlan.Alike
        ((searchFor (.text "a") (.text "b") [.int 1]).selectPlan .mysql)
        ((searchFor (.text "'; --") (.text "?") [.int 2]).selectPlan .mysql) ∧
      SameOutcome Statement.Alike
        ((searchFor (.text "a") (.text "b") [.int 1]).updatePlan
          (noteOfText (.text "c")) .mysql)
        ((searchFor (.text "'; --") (.text "?") [.int 2]).updatePlan
          (noteOfText (.text "'?'")) .mysql) := by
  have same : (searchFor (.text "a") (.text "b") [.int 1]).skeleton =
      (searchFor (.text "'; --") (.text "?") [.int 2]).skeleton := rfl
  have blank : (noteOfText (.text "c")).map Assignment.skeleton =
      (noteOfText (.text "'?'")).map Assignment.skeleton := rfl
  have alike := plans_alike .mysql same
  exact ⟨same, blank, rfl, alike.1, (alike.2.2.2 _ _ blank).1⟩

end PreparedSql
