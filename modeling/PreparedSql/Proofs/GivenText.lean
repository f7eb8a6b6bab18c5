import PreparedSql.Proofs.Lookup
import PreparedSql.Predicate.Test
import PreparedSql.Query.Layout

/-! The texts that a query brings along: the names and aliases of its tables and columns, and its
verbatim SQL. Resolving a column brings in no other text. -/

namespace PreparedSql

/-- A text that goes into a statement as it was given. -/
inductive GivenText where
  /-- The name of a table or column, or an alias. -/
  | name (content : String)
  /-- Verbatim SQL. -/
  | raw (content : String)
  deriving DecidableEq, Repr

def GivenText.content : GivenText → String
  | .name content => content
  | .raw content => content

def Table.givenTexts (table : Table) : List GivenText :=
  .name table.name :: table.columns.map fun column => .name column.name

def TableRef.givenTexts (ref : TableRef) : List GivenText :=
  ref.table.givenTexts ++ ref.aliasName.toList.map .name

def QualifiedColumn.givenTexts (column : QualifiedColumn) : List GivenText :=
  .name column.column.name :: column.table.givenTexts

/-- A name that is still to be resolved does not itself go into a statement. -/
def ColumnSpec.givenTexts : ColumnSpec → List GivenText
  | .named _ => []
  | .known column => column.givenTexts

def JoinEntry.givenTexts (entry : JoinEntry) : List GivenText :=
  entry.join.pairs.flatMap fun pair => pair.left.givenTexts ++ pair.right.givenTexts

def SelectEntry.givenTexts : SelectEntry → List GivenText
  | .all table => table.givenTexts
  | .column spec => spec.givenTexts
  | .raw sql => [.raw sql]

def OrderTarget.givenTexts : OrderTarget → List GivenText
  | .column spec => spec.givenTexts
  | .raw sql => [.raw sql]

def NodeSettings.givenTexts (settings : NodeSettings) : List GivenText :=
  settings.table.toList.flatMap TableRef.givenTexts

mutual

def Test.givenTexts : Test → List GivenText
  | .compareValue column _ _ => column.givenTexts
  | .compareRaw column _ sql => .raw sql :: column.givenTexts
  | .compareQuery column _ query => column.givenTexts ++ query.givenTexts
  | .inList column _ _ => column.givenTexts
  | .inQuery column _ query => column.givenTexts ++ query.givenTexts
  | .raw sql => [.raw sql]

def Predicate.givenTexts : Predicate → List GivenText
  | .leaf settings test => settings.givenTexts ++ test.givenTexts
  | .node settings _ children => settings.givenTexts ++ Predicate.givenTextsOfAll children

def Predicate.givenTextsOfAll : List Predicate → List GivenText
  | [] => []
  | child :: children => child.givenTexts ++ Predicate.givenTextsOfAll children

def Source.givenTexts : Source → List GivenText
  | .table ref => ref.givenTexts
  | .derived ref query => ref.givenTexts ++ query.givenTexts

/-- The texts of every clause, and of the queries inside. -/
def Query.givenTexts : Query → List GivenText
  | { source, filters, havings, joins, selection, grouping, ordering, .. } =>
      source.givenTexts ++ joins.flatMap JoinEntry.givenTexts ++
        selection.flatMap SelectEntry.givenTexts ++ Predicate.givenTextsOfAll filters ++
        grouping.flatMap ColumnSpec.givenTexts ++ Predicate.givenTextsOfAll havings ++
        ordering.flatMap fun entry => entry.target.givenTexts

end

variable {P : GivenText → Prop}

namespace TableRef

theorem givenTexts_of_mem_columns {ref : TableRef} {column : QualifiedColumn}
    (member : column ∈ ref.columns) (given : ∀ text ∈ ref.givenTexts, P text) :
    ∀ text ∈ column.givenTexts, P text := by
  obtain ⟨declared, inside, rfl⟩ := List.mem_map.1 member
  intro text here
  rcases List.mem_cons.1 here with rfl | here
  · refine given _ (List.mem_append_left _ (List.mem_cons_of_mem _ ?_))
    exact List.mem_map.2 ⟨declared, inside, rfl⟩
  · exact given text here

theorem givenTexts_of_column {ref : TableRef} {name : String} {column : QualifiedColumn}
    (found : ref.column name = .ok column) (given : ∀ text ∈ ref.givenTexts, P text) :
    ∀ text ∈ column.givenTexts, P text := by
  obtain ⟨rfl, declared⟩ := column_eq_ok found
  exact givenTexts_of_mem_columns (List.mem_map.2 ⟨column.column, declared, rfl⟩) given

theorem name_mem (ref : TableRef) : .name ref.table.name ∈ ref.givenTexts :=
  List.mem_append_left _ List.mem_cons_self

/-- The label of a table is its alias or its name. -/
theorem name_label_mem (ref : TableRef) : .name ref.label ∈ ref.givenTexts := by
  unfold label givenTexts Table.givenTexts
  cases ref.aliasName <;> simp

end TableRef

/-- A resolved column has the texts of its specification or of a table it was looked up on. -/
theorem ColumnSpec.givenTexts_of_resolve {table : Option TableRef} {sources : List TableRef}
    {spec : ColumnSpec} {column : QualifiedColumn}
    (resolved : spec.resolve table sources = .ok column)
    (given : ∀ text ∈ spec.givenTexts, P text)
    (scope : ∀ ref ∈ sources ++ table.toList, ∀ text ∈ ref.givenTexts, P text) :
    ∀ text ∈ column.givenTexts, P text := by
  cases spec with
  | known own =>
    cases resolved
    exact given
  | named name =>
    obtain ⟨ref, member, own, looked⟩ := exists_column_of_resolve resolved
    exact TableRef.givenTexts_of_column looked (scope ref member)

/-- The texts of the tables that a scope looks columns up on. -/
def Scope.Given (P : GivenText → Prop) (scope : Scope) : Prop :=
  ∀ ref ∈ scope.sources ++ scope.table.toList, ∀ text ∈ ref.givenTexts, P text

namespace Scope

theorem Given.enter {scope : Scope} {settings : NodeSettings} (given : scope.Given P)
    (own : ∀ text ∈ settings.givenTexts, P text) : (scope.enter settings).Given P := by
  intro ref member text inside
  unfold Scope.enter at member
  rcases List.mem_append.1 member with source | here
  · exact given ref (List.mem_append_left _ source) text inside
  · cases same : settings.table with
    | some table =>
      simp only [same, Option.some_or, Option.toList_some, List.mem_singleton] at here
      subst here
      exact own text (List.mem_flatMap.2 ⟨ref, by simp [same], inside⟩)
    | none =>
      simp only [same, Option.none_or] at here
      exact given ref (List.mem_append_right _ here) text inside

theorem Given.resolve {scope : Scope} {spec : ColumnSpec} {column : QualifiedColumn}
    (given : scope.Given P) (own : ∀ text ∈ spec.givenTexts, P text)
    (resolved : scope.resolve spec = .ok column) : ∀ text ∈ column.givenTexts, P text :=
  ColumnSpec.givenTexts_of_resolve resolved own given

end Scope

namespace JoinEntry

theorem givenTexts_of_mem_tables {entry : JoinEntry} {ref : TableRef}
    (member : ref ∈ entry.tables) (given : ∀ text ∈ entry.givenTexts, P text) :
    ∀ text ∈ ref.givenTexts, P text := by
  intro text inside
  refine given text (List.mem_flatMap.2 ⟨entry.join.first, List.mem_cons_self, ?_⟩)
  rcases List.mem_pair.1 member with rfl | rfl
  · exact List.mem_append_left _ (List.mem_cons_of_mem _ inside)
  · exact List.mem_append_right _ (List.mem_cons_of_mem _ inside)

end JoinEntry

namespace Query

/-- What holds of all texts of a query holds of the texts of each clause. -/
structure Given (P : GivenText → Prop) (query : Query) : Prop where
  source : ∀ text ∈ query.source.givenTexts, P text
  joins : ∀ entry ∈ query.joins, ∀ text ∈ entry.givenTexts, P text
  selection : ∀ entry ∈ query.selection, ∀ text ∈ entry.givenTexts, P text
  filters : ∀ text ∈ Predicate.givenTextsOfAll query.filters, P text
  grouping : ∀ spec ∈ query.grouping, ∀ text ∈ spec.givenTexts, P text
  havings : ∀ text ∈ Predicate.givenTextsOfAll query.havings, P text
  ordering : ∀ entry ∈ query.ordering, ∀ text ∈ entry.target.givenTexts, P text

theorem given_iff {query : Query} : query.Given P ↔ ∀ text ∈ query.givenTexts, P text := by
  obtain ⟨_, source, filters, havings, joins, selection, _, grouping, ordering, _, _, _⟩ := query
  unfold givenTexts
  simp only [List.forall_mem_append, List.forall_mem_flatMap]
  constructor
  · rintro ⟨source, joins, selection, filters, grouping, havings, ordering⟩
    exact ⟨⟨⟨⟨⟨⟨source, joins⟩, selection⟩, filters⟩, grouping⟩, havings⟩, ordering⟩
  · rintro ⟨⟨⟨⟨⟨⟨source, joins⟩, selection⟩, filters⟩, grouping⟩, havings⟩, ordering⟩
    exact ⟨source, joins, selection, filters, grouping, havings, ordering⟩

namespace Given

variable {query : Query}

theorem primary (given : query.Given P) : ∀ text ∈ query.primary.givenTexts, P text := by
  intro text inside
  refine given.source text ?_
  unfold Query.primary Source.ref at inside
  unfold Source.givenTexts
  cases same : query.source with
  | table ref => simpa only [same] using inside
  | derived ref nested => exact List.mem_append_left _ (by simpa only [same] using inside)

theorem mem_sources (given : query.Given P) {ref : TableRef} (member : ref ∈ query.sources) :
    ∀ text ∈ ref.givenTexts, P text := by
  rcases mem_addSources member with first | joined
  · cases List.mem_singleton.1 first
    exact given.primary
  · obtain ⟨entry, inside, here⟩ := List.mem_flatMap.1 joined
    exact JoinEntry.givenTexts_of_mem_tables here (given.joins entry inside)

theorem tables (given : query.Given P) :
    ∀ ref ∈ query.sources ++ (some query.primary).toList, ∀ text ∈ ref.givenTexts, P text := by
  intro ref member
  rcases List.mem_append.1 member with source | own
  · exact given.mem_sources source
  · cases List.mem_singleton.1 own
    exact given.primary

theorem resolve (given : query.Given P) {spec : ColumnSpec} {column : QualifiedColumn}
    (own : ∀ text ∈ spec.givenTexts, P text) (resolved : query.resolve spec = .ok column) :
    ∀ text ∈ column.givenTexts, P text :=
  ColumnSpec.givenTexts_of_resolve resolved own given.tables

end Given

end Query

end PreparedSql
