import PreparedSql.Proofs.IgnoreCase.Nearest
import PreparedSql.Proofs.Nested.Within

/-! A predicate as it is written behind what a statement has so far, piece after piece, until a
test fails. What comes out is a matter of the tests alone, each taken by itself in the scope that
the nodes around it make: the connectives only stand between their pieces, and the first of them
to fail, from left to right, says why the predicate does. -/

namespace PreparedSql

mutual

/-- Writes the predicate behind what has been written. -/
def Predicate.emit (dialect : Dialect) (scope : Scope) :
    Predicate → Fragment → Except CompileError Fragment
  | .leaf settings test, written => do
      let piece ← test.compile dialect (scope.enter settings)
      return written ++ piece
  | .node _ connective [], written => .ok (written ++ .text connective.neutral)
  | .node settings _ [only], written => only.emit dialect (scope.enter settings) written
  | .node settings connective (first :: second :: others), written => do
      let inner := scope.enter settings
      let begun ← first.emit dialect inner (written ++ .text "(")
      let filled ← Predicate.emitBehind dialect inner connective.separator (second :: others) begun
      return filled ++ .text ")"

/-- Writes the predicates with the separator in front of each. -/
def Predicate.emitBehind (dialect : Dialect) (scope : Scope) (separator : String) :
    List Predicate → Fragment → Except CompileError Fragment
  | [], written => .ok written
  | child :: children, written => do
      let more ← child.emit dialect scope (written ++ .text separator)
      Predicate.emitBehind dialect scope separator children more

end

namespace Predicate

mutual

/-- Writing a predicate behind something is compiling it and putting it there. -/
theorem emit_eq (dialect : Dialect) : (predicate : Predicate) → {scope : Scope} →
    {written : Fragment} →
    predicate.emit dialect scope written = (predicate.compile dialect scope).map (written ++ ·)
  | .leaf settings test, scope, written => by
      rw [emit, compile]
      cases test.compile dialect (scope.enter settings) <;> rfl
  | .node settings connective [], scope, written => rfl
  | .node settings connective [only], scope, written => by
      rw [emit, emit_eq dialect only, compile, compileAll, compileAll]
      cases only.compile dialect (scope.enter settings) <;> rfl
  | .node settings connective (first :: second :: others), scope, written => by
      -- The recursion goes on behind the second child: with fewer there are no parentheses.
      have whole (piece next : Fragment) (pieces : List Fragment) :
          written ++ .text "(" ++ piece ++ .text connective.separator ++ next ++
              .following connective.separator pieces ++ .text ")" =
            written ++ connective.combine (piece :: next :: pieces) := by
        show _ = written ++
          (.text "(" ++ .join connective.separator (piece :: next :: pieces) ++ .text ")")
        simp only [Fragment.join_cons, Fragment.following, Fragment.append_assoc]
      simp only [emit, emitBehind, emit_eq dialect first, emit_eq dialect second,
        emitBehind_eq dialect others, compile, compileAll, Attempt.bind_map, Attempt.map_bind,
        Attempt.map_pure, bind_assoc, pure_bind, whole]

theorem emitBehind_eq (dialect : Dialect) : (children : List Predicate) → {scope : Scope} →
    {separator : String} → {written : Fragment} →
    emitBehind dialect scope separator children written =
      (compileAll dialect scope children).map (written ++ .following separator ·)
  | [], scope, separator, written => congrArg Except.ok (written.append_text_empty).symm
  | child :: children, scope, separator, written => by
      rw [emitBehind, emit_eq dialect child, compileAll]
      cases child.compile dialect scope with
      | error reason => rfl
      | ok piece =>
        show emitBehind dialect scope separator children (written ++ .text separator ++ piece) = _
        rw [emitBehind_eq dialect children]
        cases compileAll dialect scope children with
        | error reason => rfl
        | ok pieces =>
          refine congrArg Except.ok ?_
          simp only [Fragment.following, Fragment.append_assoc]

end

end Predicate

/-- The scope below a path of nodes: the flag and the table of the nearest node that has one, or
else what comes from around the path. -/
def Scope.below (scope : Scope) (path : List NodeSettings) : Scope :=
  { scope with
    ignoreCase := nearestFlag path scope.ignoreCase
    table := (path.findSome? NodeSettings.table).or scope.table }

theorem Scope.below_nil (scope : Scope) : scope.below [] = scope := rfl

theorem Scope.enter_below (scope : Scope) (settings : NodeSettings) (path : List NodeSettings) :
    (scope.below path).enter settings = scope.below (settings :: path) := by
  have table : settings.table.or ((path.findSome? NodeSettings.table).or scope.table) =
      ((settings :: path).findSome? NodeSettings.table).or scope.table := by
    rw [List.findSome?_cons]
    cases settings.table <;> rfl
  unfold enter below
  rw [nearestFlag_cons, table]

/-- A test, and the nodes around it from its own to the root. -/
structure PlacedTest where
  path : List NodeSettings
  test : Test

/-- The test by itself, in the scope that the nodes around it make in the given one. -/
def PlacedTest.compile (dialect : Dialect) (scope : Scope) (leaf : PlacedTest) :
    Except CompileError Fragment :=
  leaf.test.compile dialect (scope.below leaf.path)

/-- Texts under a connective. -/
def Connective.write (connective : Connective) : List String → String
  | [] => connective.neutral
  | [only] => only
  | texts => "(" ++ connective.separator.intercalate texts ++ ")"

namespace Connective

theorem sql_combine (connective : Connective) (pieces : List Fragment) :
    (connective.combine pieces).sql = connective.write (pieces.map Fragment.sql) := by
  match pieces with
  | [] => rfl
  | [only] => rfl
  | first :: second :: others => rfl

theorem binds_combine (connective : Connective) (pieces : List Fragment) :
    (connective.combine pieces).binds = pieces.flatMap Fragment.binds := by
  match pieces with
  | [] => rfl
  | [only] => exact (List.flatMap_singleton Fragment.binds only).symm
  | first :: second :: others => exact List.append_nil _

end Connective

namespace Predicate

mutual

/-- The tests of a predicate from left to right. The given path is the one from the predicate on. -/
def leaves (path : List NodeSettings) : Predicate → List PlacedTest
  | .leaf settings test => [⟨settings :: path, test⟩]
  | .node settings _ children => leavesOfAll (settings :: path) children

def leavesOfAll (path : List NodeSettings) : List Predicate → List PlacedTest
  | [] => []
  | child :: children => child.leaves path ++ leavesOfAll path children

end

mutual

/-- The text of a predicate, from the texts of its tests. -/
def render (textOf : PlacedTest → String) (path : List NodeSettings) : Predicate → String
  | .leaf settings test => textOf ⟨settings :: path, test⟩
  | .node settings connective children =>
      connective.write (renderAll textOf (settings :: path) children)

def renderAll (textOf : PlacedTest → String) (path : List NodeSettings) :
    List Predicate → List String
  | [] => []
  | child :: children => child.render textOf path :: renderAll textOf path children

end

/-- The pieces of the tests, with what the connectives write between them. -/
def assemble (pieceOf : PlacedTest → Fragment) (path : List NodeSettings)
    (predicate : Predicate) : Fragment :=
  { sql := predicate.render (fun leaf => (pieceOf leaf).sql) path
    binds := (predicate.leaves path).flatMap fun leaf => (pieceOf leaf).binds }

variable {dialect : Dialect} {scope : Scope}

mutual

/-- A predicate fails as its tests do, one after the other. -/
theorem outcome_compile : (predicate : Predicate) → {path : List NodeSettings} →
    Attempt.outcome (predicate.compile dialect (scope.below path)) =
      Attempt.outcome ((predicate.leaves path).mapM (PlacedTest.compile dialect scope))
  | .leaf settings test, path => by
      rw [compile, scope.enter_below, leaves, List.mapM_cons, List.mapM_nil]
      exact (Attempt.outcome_map _ _).symm
  | .node settings connective children, path => by
      rw [compile, scope.enter_below, leaves, ← outcome_compileAll children]
      exact Attempt.outcome_map _ _

theorem outcome_compileAll : (children : List Predicate) → {path : List NodeSettings} →
    Attempt.outcome (compileAll dialect (scope.below path) children) =
      Attempt.outcome ((leavesOfAll path children).mapM (PlacedTest.compile dialect scope))
  | [], path => rfl
  | child :: children, path => by
      rw [compileAll, leavesOfAll, List.mapM_append, Attempt.outcome_pair, Attempt.outcome_pair,
        outcome_compile child, outcome_compileAll children]

end

mutual

/-- Where all its tests compile, a predicate is made of their pieces. -/
theorem compile_of_leaves {pieceOf : PlacedTest → Fragment} : (predicate : Predicate) →
    {path : List NodeSettings} →
    (∀ leaf ∈ predicate.leaves path, leaf.compile dialect scope = .ok (pieceOf leaf)) →
    predicate.compile dialect (scope.below path) = .ok (predicate.assemble pieceOf path)
  | .leaf settings test, path, each => by
      rw [compile, scope.enter_below, assemble, leaves, List.flatMap_singleton]
      exact each _ List.mem_cons_self
  | .node settings connective children, path, each => by
      obtain ⟨pieces, ran, texts, binds⟩ := compileAll_of_leaves children each
      rw [compile, scope.enter_below, ran]
      refine congrArg Except.ok (Fragment.ext ?_ ?_)
      · rw [connective.sql_combine, texts]
        rfl
      · rw [connective.binds_combine, binds]
        rfl

theorem compileAll_of_leaves {pieceOf : PlacedTest → Fragment} : (children : List Predicate) →
    {path : List NodeSettings} →
    (∀ leaf ∈ leavesOfAll path children, leaf.compile dialect scope = .ok (pieceOf leaf)) →
    ∃ pieces, compileAll dialect (scope.below path) children = .ok pieces ∧
      pieces.map Fragment.sql = renderAll (fun leaf => (pieceOf leaf).sql) path children ∧
      pieces.flatMap Fragment.binds =
        (leavesOfAll path children).flatMap fun leaf => (pieceOf leaf).binds
  | [], path, each => ⟨[], rfl, rfl, rfl⟩
  | child :: children, path, each => by
      obtain ⟨own, later⟩ := List.forall_mem_append.1 each
      obtain ⟨pieces, ran, texts, binds⟩ := compileAll_of_leaves children later
      refine ⟨child.assemble pieceOf path :: pieces, ?_, ?_, ?_⟩
      · rw [compileAll, compile_of_leaves child own, ran]
        rfl
      · rw [List.map_cons, texts, renderAll, assemble]
      · rw [List.flatMap_cons, binds, leavesOfAll, List.flatMap_append, assemble]

end

end Predicate

theorem queryTest_eq (column : QualifiedColumn) (operator : String) (nested : Fragment) :
    queryTest column operator nested =
      ⟨column.sql ++ " " ++ operator ++ " (" ++ nested.sql ++ ")", nested.binds⟩ := by
  refine Fragment.ext ?_ (List.append_nil _)
  show column.sql ++ " " ++ operator ++ " " ++ ("(" ++ nested.sql ++ ")") = _
  have opened : " (" = " " ++ "(" := rfl
  rw [opened]
  simp only [String.append_assoc]

/-- A predicate is written behind anything just when each of its tests compiles by itself, in the
scope that the nodes around it make. What it adds is then made of their pieces, the texts under
the connectives and the parameters from left to right; and otherwise it fails as the first test
that does. The query of a test comes in as its own SELECT, with its own parameters, whatever the
scope. -/
theorem predicate_emitted_by_tests (predicate : Predicate) (dialect : Dialect) (scope : Scope)
    (written : Fragment) :
    predicate.emit dialect scope written =
        (predicate.compile dialect scope).map (written ++ ·) ∧
      ((∃ whole, predicate.emit dialect scope written = .ok whole) ↔
        ∀ leaf ∈ predicate.leaves [], ∃ piece, leaf.compile dialect scope = .ok piece) ∧
      (∀ pieceOf : PlacedTest → Fragment,
        (∀ leaf ∈ predicate.leaves [], leaf.compile dialect scope = .ok (pieceOf leaf)) →
        predicate.emit dialect scope written = .ok
          { sql := written.sql ++ predicate.render (fun leaf => (pieceOf leaf).sql) []
            binds := written.binds ++
              (predicate.leaves []).flatMap fun leaf => (pieceOf leaf).binds }) ∧
      (∀ reason, predicate.emit dialect scope written = .error reason ↔
        ∃ before leaf after, predicate.leaves [] = before ++ leaf :: after ∧
          (∀ earlier ∈ before, ∃ piece, earlier.compile dialect scope = .ok piece) ∧
          leaf.compile dialect scope = .error reason) ∧
      ∀ path spec query,
        (∀ operator, PlacedTest.compile dialect scope ⟨path, .compareQuery spec operator query⟩ = do
          let column ← (scope.below path).resolve spec
          let plan ← query.selectPlan dialect
          return ⟨column.sql ++ " " ++ operator.sql ++ " (" ++ plan.statement.sql ++ ")",
            plan.statement.binds⟩) ∧
        ∀ operator, PlacedTest.compile dialect scope ⟨path, .inQuery spec operator query⟩ = do
          let column ← (scope.below path).resolve spec
          dialect.checkMembership query.hasLimitOrOffset
          let plan ← query.selectPlan dialect
          return ⟨column.sql ++ " " ++ operator.sql ++ " (" ++ plan.statement.sql ++ ")",
            plan.statement.binds⟩ := by
  have same : Attempt.outcome (predicate.emit dialect scope written) =
      Attempt.outcome ((predicate.leaves []).mapM (PlacedTest.compile dialect scope)) := by
    rw [Predicate.emit_eq, Attempt.outcome_map, ← Predicate.outcome_compile, scope.below_nil]
  refine ⟨Predicate.emit_eq dialect predicate, ?_, ?_, ?_, ?_⟩
  · rw [Attempt.exists_ok_iff_of_outcome same]
    exact Attempt.exists_mapM_iff
  · intro pieceOf each
    have compiled := Predicate.compile_of_leaves predicate each
    rw [scope.below_nil] at compiled
    rw [Predicate.emit_eq, compiled]
    rfl
  · intro reason
    rw [Attempt.error_iff_of_outcome same]
    exact Attempt.mapM_eq_error_iff
  · intro path spec query
    constructor
    · intro operator
      rw [PlacedTest.compile, Test.compile_compareQuery]
      simp only [queryTest_eq, Statement.sql_fragment, Statement.binds_fragment]
    · intro operator
      rw [PlacedTest.compile, Test.compile_inQuery]
      simp only [queryTest_eq, Statement.sql_fragment, Statement.binds_fragment]

/-- Notes of a title that is not to be told from "X", or for which the given column is among the
titles of the notes "x", with an OR over nothing beside it. -/
def notesLikeX (column : String) : Predicate :=
  let title (text : String) : Predicate := .compare (.named "title") .equal text
  let sameNotes : Query :=
    { schema := { name := "notes" }, source := .table notesOfTitles, filters := [title "x"],
      selection := [.column (.named "title")] }
  .node { table := some notesOfTitles } .and
    [.node { ignoreCase := some true } .or
      [title "X", .inQuery (.named column) .isIn sameNotes], .any []]

/-- The flag reaches the test on this side of the query, and not the one inside. A column that is
not there is the first failure, after a test that compiles. -/
theorem predicate_emitted_by_tests_notes :
    (notesLikeX "title").emit .generic {} ⟨"id > ? AND ", [⟨.integer, .int 1⟩]⟩ =
        .ok ⟨"id > ? AND ((UPPER(note.title) = UPPER(?) OR note.title IN " ++
            "(SELECT note.title FROM note WHERE note.title = ?)) AND 1<>1)",
          [⟨.integer, .int 1⟩, ⟨.varchar, .text "X"⟩, ⟨.varchar, .text "x"⟩]⟩ ∧
      (notesLikeX "subject").emit .generic {} ⟨"id > ? AND ", [⟨.integer, .int 1⟩]⟩ =
        .error (.unknownColumn "note" "subject") := by
  obtain ⟨-, -, assembled, -⟩ := predicate_emitted_by_tests (notesLikeX "title") .generic {}
    ⟨"id > ? AND ", [⟨.integer, .int 1⟩]⟩
  obtain ⟨-, -, -, failing, -⟩ := predicate_emitted_by_tests (notesLikeX "subject") .generic {}
    ⟨"id > ? AND ", [⟨.integer, .int 1⟩]⟩
  constructor
  · refine assembled (fun leaf => (leaf.compile .generic {}).toOption.getD default) ?_
    rintro leaf (_ | ⟨_, (_ | ⟨_, ⟨⟩⟩)⟩)
    · rfl
    · rfl
  · refine (failing _).2 ⟨[_], _, [], rfl, ?_, rfl⟩
    rintro earlier (_ | ⟨_, ⟨⟩⟩)
    exact ⟨_, rfl⟩

end PreparedSql
