import PreparedSql.Proofs.Placeholder.Alignment
import PreparedSql.Proofs.StandardDialects
import PreparedSql.Proofs.Template.Statements
import PreparedSql.Query.Build

/-! Every statement of the compiler is aligned: its placeholders are those of its parameters,
and filling these in gives the text of the reference compilation. -/

namespace PreparedSql

/-- The reference compilation succeeds, and the statement is aligned with what it gives. -/
def AlignedWith (reference : Except CompileError Template) (sql : String) (binds : List Bind) :
    Prop :=
  ∃ template, reference = .ok template ∧ template.Aligned sql binds

theorem alignedWith_of_quiet {reference : Except CompileError Template} {sql : String}
    {binds : List Bind}
    (written : ∃ template, reference = .ok template ∧ template.fragment = ⟨sql, binds⟩)
    (quiet : ∀ template, reference = .ok template → template.Quiet) :
    AlignedWith reference sql binds := by
  obtain ⟨template, ran, same⟩ := written
  have aligned := (quiet template ran).aligned
  rw [same] at aligned
  exact ⟨template, ran, aligned⟩

/-- The caller's text keeps its quotes closed and holds no placeholder. -/
def GivenText.Quiet (given : GivenText) : Prop :=
  PreparedSql.Quiet given.content

instance (given : GivenText) : Decidable given.Quiet :=
  inferInstanceAs (Decidable (PreparedSql.Quiet given.content))

theorem allows_quiet : Template.Closed.Allows Template.Quiet = GivenText.Quiet := by
  funext given
  exact propext Template.quiet_text

/-- The known dialects write a folded expression once and add no quote and no `?`. -/
theorem Dialect.transparent_of_standard {dialect : Dialect} (known : dialect ∈ standard) :
    dialect.Transparent := by
  have upper : Wraps fun sql => "UPPER(" ++ sql ++ ")" :=
    ⟨"UPPER(", ")", by decide, by decide, fun sql => rfl⟩
  refine ⟨?_, ?_, ?_, ?_⟩
  · rwa [funext (foldCase_of_standard known)]
  · rwa [funext (foldOrder_of_standard known)]
  · intro operator folded same
    rcases foldedOperator_of_standard known same with rfl | rfl <;> decide
  · intro limit offset clause written
    exact (limitClause_of_standard known written).mono (by decide)

/-- Every SELECT, COUNT, UPDATE, DELETE and INSERT and every predicate on its own is aligned
with its reference compilation. -/
theorem statements_aligned {dialect : Dialect} (transparent : dialect.Transparent) :
    (∀ query : Query, (∀ text ∈ query.givenTexts, text.Quiet) →
      (∀ plan, query.selectPlan dialect = .ok plan →
        AlignedWith (query.selectTemplate dialect) plan.statement.sql plan.statement.binds) ∧
      (∀ statement, query.countPlan dialect = .ok statement →
        AlignedWith (query.countTemplate dialect) statement.sql statement.binds) ∧
      (∀ statement, query.deletePlan dialect = .ok statement →
        AlignedWith (query.deleteTemplate dialect) statement.sql statement.binds) ∧
      ∀ assignments : List Assignment,
        (∀ assignment ∈ assignments, assignment.Given GivenText.Quiet) →
        (∀ statement, query.updatePlan assignments dialect = .ok statement →
          AlignedWith (query.updateTemplate assignments dialect) statement.sql
            statement.binds) ∧
        ∀ statement, query.insertPlan assignments = .ok statement →
          AlignedWith (query.insertTemplate assignments) statement.sql statement.binds) ∧
    ∀ predicate : Predicate, (∀ text ∈ predicate.givenTexts, text.Quiet) →
      ∀ fragment, predicate.build dialect = .ok fragment →
        AlignedWith (predicate.buildTemplate dialect) fragment.sql fragment.binds := by
  have closed := Template.quiet_closed transparent
  simp only [← allows_quiet]
  constructor
  · intro query given
    have clauses := Query.given_iff.2 given
    refine ⟨?_, ?_, ?_, ?_⟩
    · intro plan planned
      exact alignedWith_of_quiet (Query.selectPlan_statement planned) fun template ran =>
        query.selectTemplate_closed closed given ran
    · intro statement planned
      exact alignedWith_of_quiet (Query.countPlan_statement planned) fun template ran =>
        Query.countTemplate_closed closed clauses ran
    · intro statement planned
      exact alignedWith_of_quiet (Query.deletePlan_statement planned) fun template ran =>
        Query.deleteTemplate_closed closed clauses ran
    · intro assignments columns
      constructor
      · intro statement planned
        exact alignedWith_of_quiet (Query.updatePlan_statement planned) fun template ran =>
          Query.updateTemplate_closed closed clauses columns ran
      · intro statement planned
        exact alignedWith_of_quiet (Query.insertPlan_statement planned) fun template ran =>
          Query.insertTemplate_closed closed clauses columns ran
  · intro predicate given fragment built
    rw [Predicate.build_eq] at built
    obtain ⟨template, ran, rfl⟩ := Attempt.map_eq_ok.1 built
    exact alignedWith_of_quiet ⟨template, ran, rfl⟩ fun other same =>
      predicate.buildTemplate_closed closed given same

def notesTable : Table :=
  { name := "notes"
    columns := [{ name := "id", type := .integer }, { name := "text", type := .varchar }] }

/-- The note with the given number. -/
def noteOf (number : Int64) : Query :=
  { schema := ⟨"", [notesTable]⟩
    source := .table { table := notesTable }
    filters := [.compare (.named "id") .equal number]
    selection := [.column (.named "text")] }

/-- A search for a text with a quote and a `?`, over the rows of another query. -/
def noteSearch : Query :=
  { schema := ⟨"", [notesTable]⟩
    source := .derived { table := { notesTable with name := "listed" } } (noteOf 1)
    filters := [.raw "listed.text <> '?'", .compare (.named "text") .like "it's ?"]
    foldsCase := true }

theorem statements_aligned_notes :
    Dialect.sqlite.Transparent ∧ (∀ text ∈ noteSearch.givenTexts, text.Quiet) ∧
      (∀ text ∈ (noteOf 2).givenTexts, text.Quiet) ∧
      (∃ plan, noteSearch.selectPlan .sqlite = .ok plan ∧
        AlignedWith (noteSearch.selectTemplate .sqlite) plan.statement.sql
          plan.statement.binds) ∧
      ∃ statement,
        (noteOf 2).updatePlan [⟨.named "text", some (.text "?")⟩] .sqlite = .ok statement ∧
        AlignedWith ((noteOf 2).updateTemplate [⟨.named "text", some (.text "?")⟩] .sqlite)
          statement.sql statement.binds := by
  have transparent : Dialect.sqlite.Transparent :=
    Dialect.transparent_of_standard (Dialect.mem_standard.2 (by simp))
  have quietSearch : ∀ text ∈ noteSearch.givenTexts, text.Quiet := by decide +kernel
  have quietNote : ∀ text ∈ (noteOf 2).givenTexts, text.Quiet := by decide +kernel
  have aligned := (statements_aligned transparent).1
  refine ⟨transparent, quietSearch, quietNote, ?_, ?_⟩
  · exact ⟨_, rfl, (aligned noteSearch quietSearch).1 _ rfl⟩
  · refine ⟨_, rfl, ((aligned (noteOf 2) quietNote).2.2.2 _ ?_).1 _ rfl⟩
    intro assignment member text inside
    cases List.mem_singleton.1 member
    cases inside

end PreparedSql
