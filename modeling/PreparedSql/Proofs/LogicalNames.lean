import PreparedSql.Proofs.Chain.PrefixTree
import PreparedSql.Proofs.Lookup

/-! Logical names against SQL names. A lookup takes the first column that answers to a name in
either way; so the column of a logical name is found unless a column in front of it has this name as
its SQL name, and then that one is. -/

namespace PreparedSql

namespace Table

/-- The first column of exactly that logical name or, without one, the first of that SQL name. -/
def preferred? (table : Table) (name : String) : Option Column :=
  (table.columns.find? (·.field == name)).or
    (table.columns.find? (Text.sameIgnoringCase ·.name name))

/-- A column with the name as its SQL name only, and with none of the name before it, stands in
front of one with the name as its logical name. -/
structure HiddenBy (table : Table) (name : String) (other : Column) : Prop where
  sqlName : Text.sameIgnoringCase other.name name = true
  field : other.field ≠ name
  infront : ∃ before after, table.columns = before ++ other :: after ∧
    (∀ column ∈ before, column.answersTo name = false) ∧ ∃ column ∈ after, column.field = name

/-- How a lookup ends. It finds the preferred column unless this one is hidden, in which case it
finds the one that hides it, and it fails where no column has the name. -/
structure LookedUp {α : Type} (table : Table) (name : String) (use : Column → α)
    (outcome : Except CompileError α) : Prop where
  found : ∀ column, table.preferred? name = some column →
    (outcome = .ok (use column) ↔ ∀ other, ¬ table.HiddenBy name other)
  hidden : ∀ other, table.HiddenBy name other → outcome = .ok (use other)
  failed : ∀ reason, outcome = .error reason ↔
    table.preferred? name = none ∧ reason = .unknownColumn table.name name

variable {table : Table} {name : String} {column other : Column}

theorem answersTo_iff : column.answersTo name = true ↔
    column.field = name ∨ Text.sameIgnoringCase column.name name = true := by
  simp [Column.answersTo]

/-- A column that hides the preferred one is the first to answer. -/
theorem HiddenBy.find?_eq (hides : table.HiddenBy name other) :
    table.columns.find? (·.answersTo name) = some other := by
  obtain ⟨before, after, split, unnamed, -⟩ := hides.infront
  refine List.find?_eq_some_iff_append.2 ⟨answersTo_iff.2 (Or.inr hides.sqlName), before, after,
    split, fun column member => ?_⟩
  rw [unnamed column member]
  rfl

/-- What is hidden is preferred to what hides it. -/
theorem HiddenBy.preferred?_ne (hides : table.HiddenBy name other)
    (preferred : table.preferred? name = some column) : column ≠ other := by
  obtain ⟨before, after, split, -, named, behind, same⟩ := hides.infront
  have among : named ∈ table.columns := by
    rw [split]
    exact List.mem_append_right _ (List.mem_cons_of_mem _ behind)
  cases search : table.columns.find? (·.field == name) with
  | none => exact absurd (beq_iff_eq.2 same) (List.find?_eq_none.1 search named among)
  | some first =>
    have called := List.find?_some search
    unfold preferred? at preferred
    rw [search] at preferred
    cases preferred
    rintro rfl
    exact hides.field (eq_of_beq called)

/-- No column has the name, in either way, just when none answers to it. -/
theorem preferred?_eq_none_iff : table.preferred? name = none ↔
    table.columns.find? (·.answersTo name) = none := by
  unfold preferred?
  rw [Option.or_eq_none_iff]
  simp only [List.find?_eq_none, answersTo_iff, beq_iff_eq, not_or]
  constructor
  · rintro ⟨fields, names⟩ column member
    exact ⟨fields column member, names column member⟩
  · intro neither
    exact ⟨fun column member => (neither column member).1,
      fun column member => (neither column member).2⟩

/-- The first column to answer is the preferred one, or it hides that one. -/
theorem preferred?_or_hiddenBy (first : table.columns.find? (·.answersTo name) = some column) :
    table.preferred? name = some column ∨ table.HiddenBy name column := by
  obtain ⟨answers, before, after, split, unnamed⟩ := List.find?_eq_some_iff_append.1 first
  simp only [Bool.not_eq_true', Bool.eq_false_iff, ne_eq, answersTo_iff, not_or] at unnamed
  unfold preferred?
  by_cases named : column.field = name
  · have search : table.columns.find? (·.field == name) = some column :=
      List.find?_eq_some_iff_append.2 ⟨beq_iff_eq.2 named, before, after, split,
        fun earlier member => by simpa using (unnamed earlier member).1⟩
    rw [search]
    exact Or.inl rfl
  · have sqlName := (answersTo_iff.1 answers).resolve_left named
    by_cases behind : ∃ later ∈ after, later.field = name
    · refine Or.inr ⟨sqlName, named, before, after, split, fun earlier member => ?_, behind⟩
      rw [Bool.eq_false_iff, ne_eq, answersTo_iff, not_or]
      exact unnamed earlier member
    · have missing : table.columns.find? (·.field == name) = none := by
        rw [split]
        simp only [List.find?_eq_none, beq_iff_eq, List.forall_mem_append, List.forall_mem_cons]
        exact ⟨fun earlier member => (unnamed earlier member).1, named,
          fun later member same => behind ⟨later, member, same⟩⟩
      have search : table.columns.find? (Text.sameIgnoringCase ·.name name) = some column :=
        List.find?_eq_some_iff_append.2 ⟨sqlName, before, after, split,
          fun earlier member => by simpa using (unnamed earlier member).2⟩
      rw [missing, search]
      exact Or.inl rfl

theorem column_eq_error_iff {reason : CompileError} : table.column name = .error reason ↔
    table.preferred? name = none ∧ reason = .unknownColumn table.name name := by
  rw [preferred?_eq_none_iff]
  unfold Table.column
  cases table.columns.find? (·.answersTo name) with
  | some first => exact ⟨nofun, nofun⟩
  | none => exact ⟨fun failed => ⟨rfl, (Except.error.inj failed).symm⟩,
      fun ⟨_, same⟩ => congrArg Except.error same.symm⟩

theorem column_lookedUp (table : Table) (name : String) :
    table.LookedUp name id (table.column name) where
  found := by
    intro column preferred
    rw [column_eq_ok_iff]
    constructor
    · intro first other hides
      exact hides.preferred?_ne preferred (Option.some.inj (first.symm.trans hides.find?_eq))
    · intro shown
      cases search : table.columns.find? (·.answersTo name) with
      | none => exact nomatch preferred.symm.trans (preferred?_eq_none_iff.2 search)
      | some first =>
        rcases preferred?_or_hiddenBy search with same | hides
        · exact same.symm.trans preferred
        · exact absurd hides (shown first)
  hidden := fun _ hides => column_eq_ok_iff.2 hides.find?_eq
  failed := fun _ => column_eq_error_iff

/-- What is made of the column that is found makes no difference. -/
theorem LookedUp.map {α β : Type} {use : Column → α} {outcome : Except CompileError α}
    (looked : table.LookedUp name use outcome) {f : α → β} (apart : Function.Injective f) :
    table.LookedUp name (fun column => f (use column)) (outcome.map f) where
  found := by
    intro column preferred
    rw [← looked.found column preferred, Attempt.map_eq_ok]
    constructor
    · rintro ⟨value, ran, same⟩
      rw [ran, apart same]
    · exact fun ran => ⟨_, ran, rfl⟩
  hidden := fun other hides => Attempt.map_eq_ok.2 ⟨_, looked.hidden other hides, rfl⟩
  failed := fun reason => Attempt.map_eq_error.trans (looked.failed reason)

/-- A lookup succeeds just when a column has the name. -/
theorem LookedUp.exists_ok_iff {α : Type} {use : Column → α} {outcome : Except CompileError α}
    (looked : table.LookedUp name use outcome) :
    (∃ value, outcome = .ok value) ↔ table.preferred? name ≠ none := by
  cases outcome with
  | ok value =>
    refine ⟨fun _ missing => ?_, fun _ => ⟨value, rfl⟩⟩
    cases (looked.failed _).2 ⟨missing, rfl⟩
  | error reason =>
    have missing := ((looked.failed reason).1 rfl).1
    exact ⟨nofun, fun known => absurd missing known⟩

end Table

theorem TableRef.column_lookedUp (ref : TableRef) (name : String) :
    ref.table.LookedUp name (QualifiedColumn.mk ref) (ref.column name) :=
  (ref.table.column_lookedUp name).map fun _ _ same => (QualifiedColumn.mk.inj same).2

/-- A name without a dot is looked up on the table in scope, whatever other sources there are. -/
theorem ColumnSpec.resolve_of_bare {name : String} (bare : '.' ∉ name.toList) (ref : TableRef)
    (sources : List TableRef) :
    (ColumnSpec.named name).resolve (some ref) sources = ref.column name := by
  have uncut : Text.cutFirst '.' name = none := by
    unfold Text.cutFirst
    rw [Text.cutChars_eq_none.2 bare]
    rfl
  exact resolve_of_uncut uncut ref sources

/-- The join follows a relation of its left table, and each name in the relation's pairs is looked
up on the table of its side. -/
def JoinEntry.PairsLookedUp (entry : JoinEntry) : Prop :=
  ∃ name relation, entry.join.leftTable.table.relation name = .ok relation ∧
    List.Forall₂ (fun (names : String × String) (pair : ColumnPair) =>
      entry.join.leftTable.table.LookedUp names.1 (QualifiedColumn.mk entry.join.leftTable)
        (.ok pair.left) ∧
      entry.join.rightTable.table.LookedUp names.2 (QualifiedColumn.mk entry.join.rightTable)
        (.ok pair.right)) relation.pairs entry.join.pairs

/-- The table lacks a name of the pairs, and no name before it is lacking. The left name of a pair
comes before its right one. -/
def PairsLack (left right : Table) (pairs : List (String × String)) (table : Table)
    (name : String) : Prop :=
  ∃ before pair after, pairs = before ++ pair :: after ∧
    (∀ earlier ∈ before,
      left.preferred? earlier.1 ≠ none ∧ right.preferred? earlier.2 ≠ none) ∧
    (left.preferred? pair.1 = none ∧ table = left ∧ name = pair.1 ∨
      left.preferred? pair.1 ≠ none ∧
        right.preferred? pair.2 = none ∧ table = right ∧ name = pair.2)

section Pairs

variable {left right : TableRef} {relation : Relation} {kind : JoinKind} {hop : String}
  {names : String × String} {pair : ColumnPair} {reason : CompileError}

theorem resolvePair_eq_ok_iff : resolvePair left right names = .ok pair ↔
    left.column names.1 = .ok pair.left ∧ right.column names.2 = .ok pair.right := by
  unfold resolvePair
  simp only [Attempt.bind_eq_ok, Attempt.pure_eq_ok]
  constructor
  · rintro ⟨own, found, foreign, found', rfl⟩
    exact ⟨found, found'⟩
  · rintro ⟨found, found'⟩
    exact ⟨pair.left, found, pair.right, found', rfl⟩

/-- A pair is resolved just when both tables know its names. -/
theorem exists_resolvePair_iff : (∃ pair, resolvePair left right names = .ok pair) ↔
    left.table.preferred? names.1 ≠ none ∧ right.table.preferred? names.2 ≠ none := by
  rw [← (left.column_lookedUp names.1).exists_ok_iff,
    ← (right.column_lookedUp names.2).exists_ok_iff]
  simp only [resolvePair_eq_ok_iff]
  constructor
  · rintro ⟨pair, own, foreign⟩
    exact ⟨⟨_, own⟩, ⟨_, foreign⟩⟩
  · rintro ⟨⟨column, own⟩, ⟨column', foreign⟩⟩
    exact ⟨⟨column, column'⟩, own, foreign⟩

theorem resolvePair_eq_error_iff : resolvePair left right names = .error reason ↔
    (left.table.preferred? names.1 = none ∧
        reason = .unknownColumn left.table.name names.1) ∨
      left.table.preferred? names.1 ≠ none ∧ right.table.preferred? names.2 = none ∧
        reason = .unknownColumn right.table.name names.2 := by
  unfold resolvePair
  rw [Attempt.bind_eq_error, (left.column_lookedUp names.1).failed,
    ← (left.column_lookedUp names.1).exists_ok_iff, ← (right.column_lookedUp names.2).failed]
  constructor
  · rintro (own | ⟨column, found, rest⟩)
    · exact Or.inl own
    · rcases Attempt.bind_eq_error.1 rest with foreign | ⟨_, -, wrong⟩
      · exact Or.inr ⟨⟨column, found⟩, foreign⟩
      · cases wrong
  · rintro (own | ⟨⟨column, found⟩, foreign⟩)
    · exact Or.inl own
    · exact Or.inr ⟨column, found, Attempt.bind_eq_error.2 (Or.inl foreign)⟩

/-- The pairs of a join over a relation are those of the relation, one by one. -/
theorem relationJoin_pairs (some : relation.pairs ≠ []) :
    (relationJoin relation kind hop left right).map Join.pairs =
      relation.pairs.mapM (resolvePair left right) := by
  unfold relationJoin
  cases pairs : relation.pairs with
  | nil => exact absurd pairs some
  | cons first more =>
    rw [List.mapM_cons, Attempt.map_bind]
    refine Attempt.bind_congr fun own => ?_
    rw [Attempt.map_bind]
    rfl

/-- A join over a relation fails for the first name that is lacking. -/
theorem relationJoin_eq_error_iff (some : relation.pairs ≠ []) :
    relationJoin relation kind hop left right = .error reason ↔
      ∃ table name, PairsLack left.table right.table relation.pairs table name ∧
        reason = .unknownColumn table.name name := by
  rw [← Attempt.map_eq_error (f := Join.pairs), relationJoin_pairs some,
    Attempt.mapM_eq_error_iff]
  simp only [exists_resolvePair_iff, resolvePair_eq_error_iff]
  constructor
  · rintro ⟨before, pair, after, split, known, ⟨missing, rfl⟩ | ⟨own, missing, rfl⟩⟩
    · exact ⟨_, _, ⟨before, pair, after, split, known, Or.inl ⟨missing, rfl, rfl⟩⟩, rfl⟩
    · exact ⟨_, _, ⟨before, pair, after, split, known, Or.inr ⟨own, missing, rfl, rfl⟩⟩, rfl⟩
  · rintro ⟨_, _, ⟨before, pair, after, split, known,
      ⟨missing, rfl, rfl⟩ | ⟨own, missing, rfl, rfl⟩⟩, rfl⟩
    · exact ⟨before, pair, after, split, known, Or.inl ⟨missing, rfl⟩⟩
    · exact ⟨before, pair, after, split, known, Or.inr ⟨own, missing, rfl⟩⟩

/-- A join that is made for a hop has the columns that the relation names. -/
theorem pairsLookedUp_of_hopEntry {schema : Schema} {previous : Option Nat}
    {aliasName : Option String} {entry : JoinEntry}
    (made : hopEntry schema kind hop previous left aliasName = .ok entry) :
    entry.PairsLookedUp := by
  obtain ⟨relation, named, rest⟩ := Attempt.bind_eq_ok.1 made
  obtain ⟨foreign, -, rest⟩ := Attempt.bind_eq_ok.1 rest
  obtain ⟨join, joined, done⟩ := Attempt.bind_eq_ok.1 rest
  cases Attempt.pure_eq_ok.1 done
  obtain ⟨leftTable, rightTable⟩ := relationJoin_tables joined join.first List.mem_cons_self
  have some : relation.pairs ≠ [] := by
    intro empty
    unfold relationJoin at joined
    rw [empty] at joined
    cases joined
  have ran : relation.pairs.mapM (resolvePair left { table := foreign, aliasName }) =
      .ok join.pairs := by
    rw [← relationJoin_pairs some, joined]
    rfl
  unfold JoinEntry.PairsLookedUp Join.leftTable Join.rightTable
  dsimp only
  rw [leftTable, rightTable]
  refine ⟨hop, relation, named, (Attempt.mapM_eq_ok.1 ran).imp fun names pair found => ?_⟩
  obtain ⟨own, foreign⟩ := resolvePair_eq_ok_iff.1 found
  exact ⟨own ▸ left.column_lookedUp names.1, foreign ▸ TableRef.column_lookedUp _ names.2⟩

end Pairs

/-- A lookup finds the column of the logical name, or else that of the SQL name, unless a column in
front of the former hides it, and it fails just where no column has the name. This goes for tables,
for tables under an alias, for names without a dot in any clause, and for the names in the pairs of
a relation, of which a join fails for the first that is lacking. -/
theorem lookups_prefer_logical_names (ref : TableRef) (name : String) :
    ref.table.LookedUp name id (ref.table.column name) ∧
    ref.table.LookedUp name (QualifiedColumn.mk ref) (ref.column name) ∧
    ('.' ∉ name.toList → ∀ sources, ref.table.LookedUp name (QualifiedColumn.mk ref)
      ((ColumnSpec.named name).resolve (some ref) sources)) ∧
    (∀ query path kind aliasName joined, Query.joinRelation query path kind aliasName = .ok joined →
      ∀ entry ∈ joined.joins, entry ∈ query.joins ∨ entry.PairsLookedUp) ∧
    ∀ relation kind hop right, relation.pairs ≠ [] → ∀ reason,
      relationJoin relation kind hop ref right = .error reason ↔
        ∃ table lacking, PairsLack ref.table right.table relation.pairs table lacking ∧
          reason = .unknownColumn table.name lacking := by
  refine ⟨ref.table.column_lookedUp name, ref.column_lookedUp name, ?_, ?_, ?_⟩
  · intro bare sources
    rw [ColumnSpec.resolve_of_bare bare]
    exact ref.column_lookedUp name
  · intro query path kind aliasName joined ran entry member
    obtain ⟨joins, grown, done⟩ := Attempt.bind_eq_ok.1 ran
    cases Attempt.pure_eq_ok.1 done
    rcases mem_joinHops grown entry member with old | ⟨_, _, _, _, made⟩
    · exact Or.inl old
    · exact Or.inr (pairsLookedUp_of_hopEntry made)
  · intro relation kind hop right some reason
    exact relationJoin_eq_error_iff some

/-- The SQL name of the first column is the logical name of the second. -/
def headingsSchema : Schema :=
  { name := "notes"
    tables :=
      [{ name := "note"
         columns :=
           [{ name := "title", field := "Heading", type := .varchar },
            { name := "subtitle", field := "title", type := .varchar },
            { name := "parent", field := "Title", type := .integer }]
         relations :=
           [{ name := "Parent", foreignTable := "NOTE", pairs := [("parent", "TITLE")] },
            { name := "Topic", foreignTable := "note", pairs := [("Heading", "topic")] }] }] }

def headingsTable : Table :=
  headingsSchema.tables.getD 0 default

/-- The second column has the logical name `title`, and the first one is found. -/
theorem title_hidden_by_heading :
    headingsTable.preferred? "title" =
        some { name := "subtitle", field := "title", type := .varchar } ∧
      headingsTable.column "title" =
        .ok { name := "title", field := "Heading", type := .varchar } ∧
      (ColumnSpec.named "title").resolve (some { table := headingsTable }) [] =
        .ok ⟨{ table := headingsTable },
          { name := "title", field := "Heading", type := .varchar }⟩ ∧
      headingsTable.HiddenBy "title" { name := "title", field := "Heading", type := .varchar } := by
  refine ⟨by decide +kernel, by decide +kernel, by decide +kernel, ?_⟩
  exact ⟨by decide +kernel, by decide, [], _, rfl, List.forall_mem_nil _,
    { name := "subtitle", field := "title", type := .varchar }, by decide, rfl⟩

/-- Each note with the one it continues. The SQL name of that one's heading is given in capitals. -/
def headingsJoin : JoinEntry :=
  { join :=
      { kind := .inner
        first :=
          { left := ⟨{ table := headingsTable, aliasName := some "n" },
              { name := "parent", field := "Title", type := .integer }⟩
            right := ⟨{ table := headingsTable, aliasName := some "p" },
              { name := "title", field := "Heading", type := .varchar }⟩ } }
    hop := some { relation := "Parent" } }

theorem lookups_prefer_logical_names_headings :
    ∃ start, '.' ∉ "Heading".toList ∧ (∀ other, ¬ headingsTable.HiddenBy "Heading" other) ∧
      (ColumnSpec.named "Heading").resolve (some { table := headingsTable }) [] =
        .ok ⟨{ table := headingsTable },
          { name := "title", field := "Heading", type := .varchar }⟩ ∧
      Query.ofTable headingsSchema "note" (some "n") = .ok start ∧
      start.joinRelation "Parent" .inner (some "p") =
        .ok { start with joins := [headingsJoin] } ∧
      headingsJoin.PairsLookedUp ∧
      relationJoin { name := "Topic", foreignTable := "note", pairs := [("Heading", "topic")] }
          .left "Topic" start.primary { table := headingsTable } =
        .error (.unknownColumn "note" "topic") := by
  have shown : ∀ other, ¬ headingsTable.HiddenBy "Heading" other := by
    intro other hides
    cases hides.find?_eq.symm.trans (show _ = some
      { name := "title", field := "Heading", type := .varchar } by decide +kernel)
    exact hides.field rfl
  obtain ⟨-, -, resolved, -⟩ := lookups_prefer_logical_names { table := headingsTable } "Heading"
  obtain ⟨-, -, -, joins, failed⟩ :=
    lookups_prefer_logical_names { table := headingsTable, aliasName := some "n" } "Heading"
  have bare : '.' ∉ "Heading".toList := by decide
  have parent : headingsJoin.PairsLookedUp :=
    (joins { schema := headingsSchema
             source := .table { table := headingsTable, aliasName := some "n" } }
        "Parent" .inner (some "p") _ rfl headingsJoin List.mem_cons_self).resolve_left
      List.not_mem_nil
  refine ⟨_, bare, shown, ((resolved bare []).found _ (by decide +kernel)).2 shown, rfl, rfl,
    parent, (failed _ _ _ _ (List.cons_ne_nil _ _) _).2 ?_⟩
  exact ⟨headingsTable, "topic", ⟨[], _, [], rfl, List.forall_mem_nil _,
    Or.inr ⟨by decide +kernel, by decide +kernel, rfl, rfl⟩⟩, rfl⟩

end PreparedSql
