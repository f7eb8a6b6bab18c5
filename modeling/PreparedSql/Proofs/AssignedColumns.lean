import PreparedSql.Dialect.Standard
import PreparedSql.Proofs.Fragments
import PreparedSql.Proofs.Lookup

/-! The columns that an UPDATE or INSERT assigns to. A name is looked up on the statement's table
alone, so it is a column of this table, or else the statement is refused. A column that is already
known is not looked up again, and only its own name gets into the statement: a column of another
table passes for one of the statement's. -/

namespace PreparedSql

/-- The only source there is goes by its own name. -/
theorem ColumnSpec.resolve_of_cut {name qualifier rest : String}
    (cut : Text.cutFirst '.' name = some (qualifier, rest)) (table : Table) :
    (ColumnSpec.named name).resolve (some { table }) [] =
      if Text.sameIgnoringCase table.name qualifier then TableRef.column { table } rest
      else .error (.unknownTable qualifier) := by
  have label : TableRef.label { table } = table.name := rfl
  simp only [resolve, cut, findSource, List.nil_append, Option.toList_some, List.find?_singleton,
    label]
  cases Text.sameIgnoringCase table.name qualifier with
  | true => rfl
  | false => rfl

namespace Assignment

/-- What becomes of an assignment in a statement on the table. -/
inductive ResolvesOn (table : Table) : Assignment → Assigned → Prop where
  | known {column : QualifiedColumn} {value : Value} :
      ResolvesOn table ⟨.known column, value⟩ ⟨column, value⟩
  | bare {name : String} {own : Column} {value : Value} :
      Text.cutFirst '.' name = none → table.column name = .ok own →
        ResolvesOn table ⟨.named name, value⟩ ⟨⟨{ table }, own⟩, value⟩
  | dotted {name qualifier rest : String} {own : Column} {value : Value} :
      Text.cutFirst '.' name = some (qualifier, rest) →
        Text.sameIgnoringCase table.name qualifier = true → table.column rest = .ok own →
          ResolvesOn table ⟨.named name, value⟩ ⟨⟨{ table }, own⟩, value⟩

variable {table : Table} {assignment : Assignment} {entry : Assigned}

theorem resolve_eq_ok_iff :
    assignment.resolve { table } = .ok entry ↔ assignment.ResolvesOn table entry := by
  constructor
  · intro resolved
    obtain ⟨column, found, rfl⟩ := Attempt.map_eq_ok.1 resolved
    obtain ⟨spec, value⟩ := assignment
    cases spec with
    | known other =>
      cases found
      exact .known
    | named name =>
      cases cut : Text.cutFirst '.' name with
      | none =>
        rw [ColumnSpec.resolve_of_uncut cut] at found
        obtain ⟨own, search, rfl⟩ := Attempt.map_eq_ok.1 found
        exact .bare cut search
      | some parts =>
        rw [ColumnSpec.resolve_of_cut cut] at found
        split at found
        next same =>
          obtain ⟨own, search, rfl⟩ := Attempt.map_eq_ok.1 found
          exact .dotted cut same search
        next => cases found
  · intro resolves
    unfold resolve
    cases resolves with
    | known => rfl
    | bare whole search =>
      rw [ColumnSpec.resolve_of_uncut whole, TableRef.column, search]
      rfl
    | dotted cut same search =>
      rw [ColumnSpec.resolve_of_cut cut, if_pos same, TableRef.column, search]
      rfl

/-- A name that is qualified by anything but the table's name is refused. -/
theorem resolve_foreign {name qualifier rest : String} (named : assignment.column = .named name)
    (cut : Text.cutFirst '.' name = some (qualifier, rest))
    (foreign : Text.sameIgnoringCase table.name qualifier = false) :
    assignment.resolve { table } = .error (.unknownTable qualifier) := by
  unfold resolve
  rw [named, ColumnSpec.resolve_of_cut cut, foreign]
  rfl

/-- A name gives a column of the table; a known column is one only if it was before. -/
theorem ResolvesOn.own_iff (resolves : assignment.ResolvesOn table entry) :
    entry.column ∈ TableRef.columns { table } ↔
      ∀ column, assignment.column = .known column → column ∈ TableRef.columns { table } := by
  have own {name : String} {column : Column} (search : table.column name = .ok column) :
      (⟨{ table }, column⟩ : QualifiedColumn) ∈ TableRef.columns { table } :=
    List.mem_map_of_mem (List.mem_of_find?_eq_some (Table.column_eq_ok_iff.1 search))
  cases resolves with
  | known =>
    constructor
    · intro member column same
      cases same
      exact member
    · intro each
      exact each _ rfl
  | bare _ search => exact ⟨fun _ => nofun, fun _ => own search⟩
  | dotted _ _ search => exact ⟨fun _ => nofun, fun _ => own search⟩

/-- A known column is taken for the same one of another table; a name stays as it is. -/
def movedTo (ref : TableRef) (assignment : Assignment) : Assignment :=
  match assignment.column with
  | .known column => { assignment with column := .known { column with table := ref } }
  | .named _ => assignment

end Assignment

namespace Query

variable {query : Query} {assignments : List Assignment} {table : Table} {assigned : List Assigned}

/-- The query is one over a single table without an alias, and the assignments resolve on it. -/
structure Assigns (query : Query) (assignments : List Assignment) (table : Table)
    (assigned : List Assigned) : Prop where
  source : query.source = .table { table }
  unjoined : query.joins = []
  some : assignments ≠ []
  resolved : List.Forall₂ (Assignment.ResolvesOn table) assignments assigned

theorem mutationTarget_eq_ok_iff {mutation : Mutation} {ref : TableRef} :
    query.mutationTarget mutation = .ok ref ↔
      ∃ table, ref = { table } ∧ query.source = .table { table } ∧ query.joins = [] := by
  unfold mutationTarget
  cases query.source with
  | derived rows inner => exact ⟨nofun, fun ⟨_, _, reads, _⟩ => nomatch reads⟩
  | table own =>
    obtain ⟨table, aliasName⟩ := own
    cases aliasName with
    | some shown =>
      exact ⟨nofun, fun ⟨_, _, reads, _⟩ => nomatch reads⟩
    | none =>
      cases query.joins with
      | cons entry entries => exact ⟨nofun, fun ⟨_, _, _, unjoined⟩ => nomatch unjoined⟩
      | nil =>
        constructor
        · intro target
          cases target
          exact ⟨table, rfl, rfl, rfl⟩
        · rintro ⟨other, rfl, reads, -⟩
          cases reads
          rfl

/-- Resolving the assignments of a statement means that each of them resolves on its table. -/
theorem resolveAssignments_eq_ok {mutation : Mutation} {ref : TableRef}
    (target : query.mutationTarget mutation = .ok ref)
    (found : resolveAssignments mutation ref assignments = .ok assigned) :
    ∃ table, ref = { table } ∧ query.Assigns assignments table assigned := by
  obtain ⟨table, rfl, source, unjoined⟩ := mutationTarget_eq_ok_iff.1 target
  obtain ⟨some, ran⟩ := resolveAssignments_eq_ok_iff.1 found
  have resolved := (Attempt.mapM_eq_ok.1 ran).imp fun _ _ => Assignment.resolve_eq_ok_iff.1
  exact ⟨table, rfl, source, unjoined, some, resolved⟩

/-- All columns written are the table's own just when those known before are. -/
theorem Assigns.own_iff (assigns : query.Assigns assignments table assigned) :
    (∀ entry ∈ assigned, entry.column ∈ TableRef.columns { table }) ↔
      ∀ assignment ∈ assignments, ∀ column, assignment.column = .known column →
        column ∈ TableRef.columns { table } := by
  -- Entry by entry: what is assigned is the table's own just when its assignment asks for that.
  have ran : assignments.mapM (Assignment.resolve { table }) = .ok assigned :=
    Attempt.mapM_eq_ok.2 (assigns.resolved.imp fun _ _ => Assignment.resolve_eq_ok_iff.2)
  exact Attempt.forall_mem_mapM_iff ran fun assignment _ entry found =>
    (Assignment.resolve_eq_ok_iff.1 found).own_iff

theorem updatePlan_assigns {dialect : Dialect} {statement : Statement}
    (planned : query.updatePlan assignments dialect = .ok statement) :
    ∃ table assigned condition, query.Assigns assignments table assigned ∧
      statement.table = table.name ∧
      statement.fragment = .text ("UPDATE " ++ table.name ++ " SET ") ++
        .join ", " (assigned.map Assigned.setClause) ++ condition := by
  obtain ⟨ref, target, rest⟩ := Attempt.bind_eq_ok.1 planned
  obtain ⟨assigned, found, rest⟩ := Attempt.bind_eq_ok.1 rest
  obtain ⟨condition, -, rest⟩ := Attempt.bind_eq_ok.1 rest
  obtain ⟨-, -, done⟩ := Attempt.bind_eq_ok.1 rest
  cases Attempt.pure_eq_ok.1 done
  obtain ⟨table, rfl, assigns⟩ := resolveAssignments_eq_ok target found
  exact ⟨table, assigned, _, assigns, rfl, rfl⟩

theorem insertPlan_assigns {statement : Statement}
    (planned : query.insertPlan assignments = .ok statement) :
    ∃ table assigned, query.Assigns assignments table assigned ∧
      statement.table = table.name ∧
      statement.fragment = .text ("INSERT INTO " ++ table.name ++ " (" ++
          ", ".intercalate (assigned.map fun entry => entry.column.column.name) ++ ") VALUES ") ++
        parenthesized (.join ", " (assigned.map Assigned.placeholder)) := by
  obtain ⟨ref, target, rest⟩ := Attempt.bind_eq_ok.1 planned
  obtain ⟨assigned, found, rest⟩ := Attempt.bind_eq_ok.1 rest
  obtain ⟨-, -, done⟩ := Attempt.bind_eq_ok.1 rest
  cases Attempt.pure_eq_ok.1 done
  obtain ⟨table, rfl, assigns⟩ := resolveAssignments_eq_ok target found
  exact ⟨table, assigned, assigns, rfl, rfl⟩

/-- The first assignment that does not resolve makes a statement on the table fail. -/
theorem plans_eq_error (source : query.source = .table { table }) (unjoined : query.joins = [])
    {before after : List Assignment} {assignment : Assignment} {reason : CompileError}
    (good : ∀ earlier ∈ before, ∃ entry, earlier.ResolvesOn table entry)
    (failed : assignment.resolve { table } = .error reason) (dialect : Dialect) :
    query.updatePlan (before ++ assignment :: after) dialect = .error reason ∧
      query.insertPlan (before ++ assignment :: after) = .error reason := by
  have resolve (mutation : Mutation) :
      resolveAssignments mutation { table } (before ++ assignment :: after) = .error reason := by
    unfold resolveAssignments
    rw [if_neg (by simp)]
    refine Attempt.mapM_eq_error_iff.2 ⟨before, assignment, after, rfl, ?_, failed⟩
    intro earlier member
    obtain ⟨entry, resolves⟩ := good earlier member
    exact ⟨entry, Assignment.resolve_eq_ok_iff.2 resolves⟩
  have target (mutation : Mutation) : query.mutationTarget mutation = .ok { table } :=
    mutationTarget_eq_ok_iff.2 ⟨table, rfl, source, unjoined⟩
  unfold updatePlan insertPlan
  rw [target, target]
  constructor
  · show (resolveAssignments .update { table } _ >>= _) = _
    rw [resolve]
    rfl
  · show (resolveAssignments .insert { table } _ >>= _) = _
    rw [resolve]
    rfl

end Query

/-- What a statement shows of an assigned column: its name, and the placeholder of its type. -/
def Assigned.shown (assigned : Assigned) : String × Fragment :=
  (assigned.column.column.name, assigned.placeholder)

namespace Query

variable (query : Query) (assignments : List Assignment) (dialect : Dialect)

theorem updatePlan_eq_shown :
    query.updatePlan assignments dialect = (do
      let table ← query.mutationTarget .update
      let shown ← (resolveAssignments .update table assignments).map (List.map Assigned.shown)
      let condition ← query.mutationCondition dialect table
      finishMutation .update table condition.isSome <|
        .text ("UPDATE " ++ table.table.name ++ " SET ") ++
          .join ", " (shown.map fun (name, placeholder) => .text (name ++ " = ") ++ placeholder) ++
          conditionClause " WHERE " condition.toList) := by
  refine Attempt.bind_congr fun table => ?_
  simp only [Attempt.bind_map, List.map_map]
  rfl

theorem insertPlan_eq_shown :
    query.insertPlan assignments = (do
      let table ← query.mutationTarget .insert
      let shown ← (resolveAssignments .insert table assignments).map (List.map Assigned.shown)
      finishMutation .insert table false <|
        .text ("INSERT INTO " ++ table.table.name ++ " (" ++
            ", ".intercalate (shown.map Prod.fst) ++ ") VALUES ") ++
          parenthesized (.join ", " (shown.map Prod.snd))) := by
  refine Attempt.bind_congr fun table => ?_
  simp only [Attempt.bind_map, List.map_map]
  rfl

/-- The table of a known column is nowhere asked for. -/
theorem resolveAssignments_movedTo (mutation : Mutation) (table ref : TableRef) :
    (resolveAssignments mutation table (assignments.map (.movedTo ref))).map
        (List.map Assigned.shown) =
      (resolveAssignments mutation table assignments).map (List.map Assigned.shown) := by
  unfold resolveAssignments
  rw [List.isEmpty_map]
  split
  next => rfl
  next =>
    refine Attempt.map_mapM_map (Assignment.movedTo ref) Assigned.shown ?_ assignments
    rintro ⟨spec, value⟩
    cases spec with
    | named name => rfl
    | known column => rfl

theorem updatePlan_movedTo (ref : TableRef) :
    query.updatePlan (assignments.map (.movedTo ref)) dialect =
      query.updatePlan assignments dialect := by
  simp only [updatePlan_eq_shown, resolveAssignments_movedTo]

theorem insertPlan_movedTo (ref : TableRef) :
    query.insertPlan (assignments.map (.movedTo ref)) = query.insertPlan assignments := by
  simp only [insertPlan_eq_shown, resolveAssignments_movedTo]

end Query

/-- An UPDATE or INSERT writes the columns that its assignments come to on its one table. They are
all columns of this table just when the columns known before are, for the names are looked up there,
and a name qualified otherwise is refused; which tables the known columns are from makes no
difference. -/
theorem assigned_columns_own_iff (query : Query) (assignments : List Assignment)
    (dialect : Dialect) :
    (∀ statement, query.updatePlan assignments dialect = .ok statement →
      ∃ table assigned condition, query.Assigns assignments table assigned ∧
        statement.table = table.name ∧
        statement.fragment = .text ("UPDATE " ++ table.name ++ " SET ") ++
          .join ", " (assigned.map Assigned.setClause) ++ condition) ∧
    (∀ statement, query.insertPlan assignments = .ok statement →
      ∃ table assigned, query.Assigns assignments table assigned ∧
        statement.table = table.name ∧
        statement.fragment = .text ("INSERT INTO " ++ table.name ++ " (" ++
            ", ".intercalate (assigned.map fun entry => entry.column.column.name) ++
              ") VALUES ") ++
          parenthesized (.join ", " (assigned.map Assigned.placeholder))) ∧
    (∀ table assigned, query.Assigns assignments table assigned →
      ((∀ entry ∈ assigned, entry.column ∈ TableRef.columns { table }) ↔
        ∀ assignment ∈ assignments, ∀ column, assignment.column = .known column →
          column ∈ TableRef.columns { table })) ∧
    (∀ table, query.source = .table { table } → query.joins = [] →
      ∀ before assignment after name qualifier rest, assignments = before ++ assignment :: after →
        (∀ earlier ∈ before, ∃ entry, earlier.ResolvesOn table entry) →
        assignment.column = .named name → Text.cutFirst '.' name = some (qualifier, rest) →
        Text.sameIgnoringCase table.name qualifier = false →
        query.updatePlan assignments dialect = .error (.unknownTable qualifier) ∧
          query.insertPlan assignments = .error (.unknownTable qualifier)) ∧
    ∀ ref,
      query.updatePlan (assignments.map (.movedTo ref)) dialect =
        query.updatePlan assignments dialect ∧
      query.insertPlan (assignments.map (.movedTo ref)) = query.insertPlan assignments := by
  refine ⟨fun _ => Query.updatePlan_assigns, fun _ => Query.insertPlan_assigns,
    fun _ _ assigns => assigns.own_iff, ?_, ?_⟩
  · intro table source unjoined before assignment after name qualifier rest split good named cut
      foreign
    rw [split]
    have failed := Assignment.resolve_foreign named cut foreign
    exact Query.plans_eq_error source unjoined good failed dialect
  · intro ref
    exact ⟨query.updatePlan_movedTo assignments dialect ref,
      query.insertPlan_movedTo assignments ref⟩

def noteTable : Table :=
  { name := "note"
    columns := [{ name := "id", type := .integer }, { name := "title", type := .varchar }] }

def tagTable : Table :=
  { name := "tag"
    columns := [{ name := "id", type := .integer }, { name := "title", type := .clob }] }

/-- The first note. -/
def firstNote : Query :=
  { schema := { name := "notes", tables := [noteTable, tagTable] }
    source := .table { table := noteTable }
    filters := [.compare (.named "id") .equal (1 : Int64)] }

def tagTitle : QualifiedColumn :=
  ⟨{ table := tagTable }, { name := "title", type := .clob }⟩

/-- The title of a tag is not one of a note, but as a known column it is written as one. By its name
it is refused. -/
theorem tag_title_assigned :
    tagTitle ∈ TableRef.columns { table := tagTable } ∧
      tagTitle ∉ TableRef.columns { table := noteTable } ∧
      (firstNote.updatePlan [⟨.known tagTitle, some (.text "x")⟩] .sqlite).map
          (fun statement => (statement.sql, statement.binds)) =
        .ok ("UPDATE note SET title = ? WHERE note.id = ?",
          [⟨.clob, .text "x"⟩, ⟨.integer, .int 1⟩]) ∧
      firstNote.updatePlan [⟨.named "tag.title", some (.text "x")⟩] .sqlite =
        .error (.unknownTable "tag") := by
  exact ⟨by decide, by decide, by decide +kernel, rfl⟩

/-- A new title, by its qualified name, and the number as it is known. -/
def renamed : List Assignment :=
  [⟨.named "NOTE.title", some (.text "x")⟩,
    ⟨.known ⟨{ table := noteTable }, { name := "id", type := .integer }⟩, some (.int 2)⟩]

theorem assigned_columns_own_iff_notes :
    ∃ statement assigned, firstNote.updatePlan renamed .sqlite = .ok statement ∧
      firstNote.Assigns renamed noteTable assigned ∧
      (∀ entry ∈ assigned, entry.column ∈ TableRef.columns { table := noteTable }) ∧
      firstNote.insertPlan (renamed ++ [⟨.named "tag.title", none⟩]) =
        .error (.unknownTable "tag") := by
  obtain ⟨updated, -, own, -, -⟩ := assigned_columns_own_iff firstNote renamed .sqlite
  obtain ⟨table, assigned, -, assigns, -, -⟩ := updated _ rfl
  cases assigns.source
  have known : ∀ assignment ∈ renamed, ∀ column, assignment.column = .known column →
      column ∈ TableRef.columns { table := noteTable } := by
    refine List.forall_mem_cons.2 ⟨nofun, List.forall_mem_singleton.2 ?_⟩
    intro column same
    cases same
    decide
  have good : ∀ earlier ∈ renamed, ∃ entry, earlier.ResolvesOn noteTable entry :=
    List.forall_mem_cons.2 ⟨⟨_, Assignment.resolve_eq_ok_iff.1 rfl⟩,
      List.forall_mem_singleton.2 ⟨_, Assignment.resolve_eq_ok_iff.1 rfl⟩⟩
  obtain ⟨-, -, -, refused, -⟩ :=
    assigned_columns_own_iff firstNote (renamed ++ [⟨.named "tag.title", none⟩]) .sqlite
  have foreign := refused noteTable rfl rfl renamed _ [] "tag.title" "tag" "title" rfl good rfl
    (by decide) (by decide)
  exact ⟨_, assigned, rfl, assigns, (own _ _ assigns).2 known, foreign.2⟩

end PreparedSql
