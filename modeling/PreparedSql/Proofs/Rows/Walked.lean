import PreparedSql.Dialect.Standard
import PreparedSql.Proofs.Chain.Astray
import PreparedSql.Proofs.Chain.PrefixTree
import PreparedSql.Proofs.Rows.Attach
import PreparedSql.Proofs.Rows.Segments

/-! Following the chain of a relation join to the record that it continues. It fails just where the
links go astray; where they do not, reading and changing a graph go the same way, relation by
relation. A query that is planned has no such links, so that every row of it can be read. -/

namespace PreparedSql

open Chain

/-- How a graph comes out of a change of the record at the end of a path. -/
structure Record.ChangedAt (root : Record) (names : List String) (change : Record → Record)
    (outcome : Option Record) : Prop where
  missing : outcome = none ↔ root.at? names = none
  /-- From that record on the graph goes on as what the record has become, -/
  below : ∀ changed object, outcome = some changed → root.at? names = some object →
    ∀ further, changed.at? (names ++ further) = (change object).at? further
  /-- and everywhere else it says what it has said. -/
  beside : ∀ changed, outcome = some changed →
    ∀ other, ¬ names <+: other → changed.contentAt? other = root.contentAt? other

theorem Record.modifyAt?_changedAt (root : Record) (names : List String)
    (change : Record → Record) : root.ChangedAt names change (root.modifyAt? change names) where
  missing := by
    rw [← Option.isNone_iff_eq_none, ← Option.isNone_iff_eq_none, ← Option.not_isSome,
      ← Option.not_isSome, modifyAt?_isSome]
  below := fun _ _ modified there further => at?_modified modified there further
  beside := fun _ modified _ apart => contentAt?_modified modified apart

namespace Hop

variable {joins : List JoinEntry} {hop : Hop}

theorem parent?_fails_iff (root : Record) :
    (∃ fault, hop.parent? joins root = .error (.brokenChain fault)) ↔ StartsAstray joins hop := by
  simp only [parent?, Attempt.map_eq_error]
  exact parentPath_fails_iff

theorem modifyParent?_fails_iff (change : Record → Record) (root : Record) :
    (∃ fault, hop.modifyParent? joins change root = .error (.brokenChain fault)) ↔
      StartsAstray joins hop := by
  simp only [modifyParent?, Attempt.map_eq_error]
  exact parentPath_fails_iff

variable {names : List String}

theorem parent?_of_path (path : Path joins hop.previous names) (root : Record) :
    hop.parent? joins root = .ok (root.at? names) := by
  rw [parent?, parentPath_eq_ok_iff.2 path]
  rfl

theorem modifyParent?_of_path (path : Path joins hop.previous names) (change : Record → Record)
    (root : Record) :
    hop.modifyParent? joins change root = .ok (root.modifyAt? change names) := by
  rw [modifyParent?, parentPath_eq_ok_iff.2 path]
  rfl

end Hop

namespace SelectPlan

variable {plan : SelectPlan}

/-- A join can be taken whose links do not go astray. -/
theorem exists_attachJoin {entry : JoinEntry}
    (sound : ∀ hop, entry.hop = some hop → ¬ StartsAstray plan.joins hop) (row : List Value)
    (root : Record) : ∃ next, plan.attachJoin row root entry = .ok next := by
  unfold attachJoin
  cases own : entry.hop with
  | none => exact ⟨root, rfl⟩
  | some hop =>
    dsimp only
    split
    next => exact ⟨root, rfl⟩
    next =>
      have pathed := sound hop own
      rw [startsAstray_iff, not_not] at pathed
      obtain ⟨names, path⟩ := pathed
      rw [Hop.modifyParent?_of_path path]
      exact ⟨_, rfl⟩

/-- All joins of a plan can be taken, one after the other. -/
theorem exists_readRow
    (sound : ∀ entry ∈ plan.joins, ∀ hop, entry.hop = some hop → ¬ StartsAstray plan.joins hop)
    (row : List Value) : ∃ root, plan.readRow row = .ok root := by
  have loop (joins : List JoinEntry) (among : joins ⊆ plan.joins) (root : Record) :
      ∃ final, joins.foldlM (plan.attachJoin row) root = .ok final := by
    induction joins generalizing root with
    | nil => exact ⟨root, rfl⟩
    | cons entry joins ih =>
      obtain ⟨here, rest⟩ := List.cons_subset.1 among
      obtain ⟨next, attached⟩ := exists_attachJoin (sound entry here) row root
      obtain ⟨final, others⟩ := ih rest next
      rw [List.foldlM_cons]
      exact ⟨final, Attempt.bind_eq_ok.2 ⟨next, attached, others⟩⟩
  exact loop plan.joins (List.Subset.refl _) _

end SelectPlan

/-- In a list whose links lead to earlier relation joins, none of them goes astray. -/
theorem Chain.Ordered.not_startsAstray {joins : List JoinEntry} (ordered : Ordered joins)
    {entry : JoinEntry} (member : entry ∈ joins) {hop : Hop} (own : entry.hop = some hop) :
    ¬ StartsAstray joins hop := by
  obtain ⟨index, found⟩ := List.getElem?_of_mem member
  have path := exists_path ordered (hopAt?_eq_some.2 ⟨entry, found, own⟩)
  rw [startsAstray_iff, not_not]
  exact path

/-- Looking for the record that a relation join continues fails just where the links of the join go
astray, and so does changing it. Otherwise both follow the relations on the links, from the primary
table on, to one and the same record, and find none just where a relation on the way is missing. The
links of a query that is planned do not go astray, so that all its rows can be read. -/
theorem chains_walked_to_records :
    (∀ (joins : List JoinEntry) (hop : Hop) (root : Record),
      ((∃ fault, hop.parent? joins root = .error (.brokenChain fault)) ↔
        StartsAstray joins hop) ∧
      (∀ change, (∃ fault, hop.modifyParent? joins change root = .error (.brokenChain fault)) ↔
        StartsAstray joins hop) ∧
      (¬ StartsAstray joins hop → ∃ names, Path joins hop.previous names ∧
        names.length ≤ joins.length ∧
        hop.parent? joins root = .ok (root.at? names) ∧
        (root.at? names = none ↔ ∃ front name back parent, names = front ++ name :: back ∧
          root.at? front = some parent ∧ parent.related? name = none) ∧
        ∀ change, ∃ outcome, hop.modifyParent? joins change root = .ok outcome ∧
          root.ChangedAt names change outcome)) ∧
    ∀ (query : Query) (dialect : Dialect) (plan : SelectPlan),
      query.selectPlan dialect = .ok plan → ∀ row, ∃ root, plan.readRow row = .ok root := by
  refine ⟨fun joins hop root => ⟨Hop.parent?_fails_iff root,
    fun change => Hop.modifyParent?_fails_iff change root, fun sound => ?_⟩, ?_⟩
  · rw [startsAstray_iff, not_not] at sound
    obtain ⟨names, path⟩ := sound
    exact ⟨names, path, path.length_le, Hop.parent?_of_path path root, Record.at?_eq_none_iff,
      fun change => ⟨_, Hop.modifyParent?_of_path path change root,
        root.modifyAt?_changedAt names change⟩⟩
  · intro query dialect plan planned row
    obtain ⟨chained, -, -, joins⟩ := Query.selectPlan_parts planned
    have ordered : Ordered plan.joins := joins ▸ check_eq_ok_iff.1 chained
    exact SelectPlan.exists_readRow
      (fun entry member hop own => ordered.not_startsAstray member own) row

/-- Two people, each joined as the mentor of the other one. -/
def mutualMentors : List JoinEntry :=
  [{ join := default, hop := some ⟨"Mentor", some 1⟩ },
   { join := default, hop := some ⟨"Mentor", some 0⟩ }]

/-- The author of a book, joined before the book. -/
def authorFirst : List JoinEntry :=
  [{ join := default, hop := some ⟨"Author", some 1⟩ },
   { join := default, hop := some ⟨"Book", none⟩ }]

/-- Books with their authors and the mentors of these, under relations that the schema does not
know. -/
def writersQuery : Query :=
  let tableAt (place : Nat) (aliasName : Option String) : TableRef :=
    { table := readingSchema.tables.getD place default, aliasName }
  let id (table : TableRef) : QualifiedColumn :=
    ⟨table, { name := "id", type := .integer, primaryKey := true }⟩
  let column (table : TableRef) (name : String) : QualifiedColumn :=
    ⟨table, { name, type := .integer }⟩
  { schema := readingSchema
    source := .table (tableAt 1 none)
    joins :=
      [⟨⟨.left, ⟨column (tableAt 1 none) "author_id", id (tableAt 2 none)⟩, []⟩,
          some ⟨"Writer", none⟩⟩,
       ⟨⟨.left, ⟨column (tableAt 2 none) "mentor_id", id (tableAt 2 (some "teacher"))⟩, []⟩,
          some ⟨"Teacher", some 0⟩⟩] }

/-- A shelf with a book and the book's author. -/
def shelf : Record :=
  { table := "shelf"
    related := [("Book", { table := "book", related := [("Author", { table := "person" })] })] }

/-- The mentors of each other lead nowhere. The author is found from a book that is joined later,
by as many links as there are joins. A row of two cells is read, though there are three columns. -/
theorem chains_walked_to_records_writers :
    StartsAstray mutualMentors ⟨"Pupil", some 0⟩ ∧
      ¬ StartsAstray authorFirst ⟨"Mentor", some 0⟩ ∧
      (⟨"Mentor", some 0⟩ : Hop).parent? authorFirst shelf = .ok (some { table := "person" }) ∧
      ∃ plan record, writersQuery.selectPlan .sqlite = .ok plan ∧
        plan.readRow [some (.int 1), none] = .ok record := by
  obtain ⟨walks, reads⟩ := chains_walked_to_records
  have path : Path authorFirst (some 0) ["Book", "Author"] :=
    @Path.hop authorFirst 0 ⟨"Author", some 1⟩ ["Book"] rfl
      (@Path.hop authorFirst 1 ⟨"Book", none⟩ [] rfl .primary)
  have sound : ¬ StartsAstray authorFirst ⟨"Mentor", some 0⟩ := by
    rw [startsAstray_iff, not_not]
    exact ⟨_, path⟩
  obtain ⟨names, other, -, found, -⟩ := (walks authorFirst ⟨"Mentor", some 0⟩ shelf).2.2 sound
  rw [other.eq_of_place path] at found
  obtain ⟨record, read⟩ := reads writersQuery .sqlite _ rfl [some (.int 1), none]
  exact ⟨(walks mutualMentors ⟨"Pupil", some 0⟩ shelf).1.1 ⟨_, rfl⟩, sound, found, _, record, rfl,
    read⟩

end PreparedSql
