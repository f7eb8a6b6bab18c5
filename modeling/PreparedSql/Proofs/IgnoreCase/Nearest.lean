import PreparedSql.Dialect.Standard
import PreparedSql.Query.Compile

/-! Which flag a test is compiled with. A flag that is handed down to the tests below is as good as
one that is looked up from each of them on the way to the root, as long as it is handed down once:
what has been handed down is kept, so a second call on the same node comes too late. -/

namespace PreparedSql

/-- The flag of the first node of a path that has one, or else the one from around the path. -/
def nearestFlag (path : List NodeSettings) (outer : Bool) : Bool :=
  (path.findSome? NodeSettings.ignoreCase).getD outer

theorem nearestFlag_cons (settings : NodeSettings) (path : List NodeSettings) (outer : Bool) :
    nearestFlag (settings :: path) outer = settings.ignoreCase.getD (nearestFlag path outer) := by
  unfold nearestFlag
  rw [List.findSome?_cons]
  cases settings.ignoreCase <;> rfl

namespace Predicate

mutual

/-- The predicate with the flag of each test written at the test: that of the nearest node which has
one, on the path from the test to the root. The given path is the one from the predicate on. -/
def spellOut (outer : Bool) (path : List NodeSettings) : Predicate → Predicate
  | .leaf settings test =>
      .leaf { settings with ignoreCase := some (nearestFlag (settings :: path) outer) } test
  | .node settings connective children =>
      .node { settings with ignoreCase := none } connective
        (spellOutAll outer (settings :: path) children)

def spellOutAll (outer : Bool) (path : List NodeSettings) : List Predicate → List Predicate
  | [] => []
  | child :: children => child.spellOut outer path :: spellOutAll outer path children

end

/-- Sets the flag of the predicate and leaves those below alone. -/
def mark (flag : Bool) : Predicate → Predicate
  | .leaf settings test => .leaf { settings with ignoreCase := some flag } test
  | .node settings connective children =>
      .node { settings with ignoreCase := some flag } connective children

mutual

/-- Some test has no flag of its own, and neither has a node of the predicate around it. -/
def isOpen : Predicate → Bool
  | .leaf settings _ => settings.ignoreCase.isNone
  | .node settings _ children => settings.ignoreCase.isNone && anyOpen children

def anyOpen : List Predicate → Bool
  | [] => false
  | child :: children => child.isOpen || anyOpen children

end

/-- The flag of the predicate is that of some test. -/
def takesFlag : Predicate → Bool
  | .leaf _ _ => true
  | .node _ _ children => anyOpen children

mutual

/-- Two paths give a predicate the same flags just when they have the same one to give, or when it
takes none. -/
theorem spellOut_eq_iff {outer outer' : Bool} : (predicate : Predicate) →
    {path path' : List NodeSettings} →
    (predicate.spellOut outer path = predicate.spellOut outer' path' ↔
      nearestFlag path outer = nearestFlag path' outer' ∨ predicate.isOpen = false)
  | .leaf settings test, path, path' => by
      simp only [spellOut, leaf.injEq, NodeSettings.mk.injEq, nearestFlag_cons, isOpen]
      cases settings.ignoreCase <;> simp
  | .node settings connective children, path, path' => by
      simp only [spellOut, node.injEq, true_and, spellOutAll_eq_iff children, nearestFlag_cons,
        isOpen]
      cases settings.ignoreCase <;> simp

theorem spellOutAll_eq_iff {outer outer' : Bool} : (children : List Predicate) →
    {path path' : List NodeSettings} →
    (spellOutAll outer path children = spellOutAll outer' path' children ↔
      nearestFlag path outer = nearestFlag path' outer' ∨ anyOpen children = false)
  | [], path, path' => by simp only [spellOutAll, anyOpen, or_true]
  | child :: children, path, path' => by
      rw [spellOutAll, spellOutAll, List.cons.injEq, spellOut_eq_iff child,
        spellOutAll_eq_iff children, anyOpen, Bool.or_eq_false_iff, or_and_left]

end

/-- A predicate sees of the path above it only the nearest flag. -/
theorem spellOut_above (predicate : Predicate) (outer : Bool) (path : List NodeSettings) :
    predicate.spellOut outer path = predicate.spellOut (nearestFlag path outer) [] :=
  (spellOut_eq_iff predicate).2 (Or.inl rfl)

theorem spellOutAll_of_nearest {outer flag : Bool} {path : List NodeSettings}
    (nearest : nearestFlag path outer = flag) (children : List Predicate) :
    spellOutAll outer path children = spellOutAll flag [] children :=
  (spellOutAll_eq_iff children).2 (Or.inl nearest)

theorem spellOutAll_below_flag (outer flag : Bool) (table : Option TableRef)
    (path : List NodeSettings) (children : List Predicate) :
    spellOutAll outer ({ ignoreCase := some flag, table } :: path) children =
      spellOutAll flag [] children :=
  spellOutAll_of_nearest rfl children

mutual

/-- Whatever is handed down to a predicate is what its open tests have from then on. -/
theorem spellOut_inherit {outer : Bool} (flag : Bool) : (predicate : Predicate) →
    {path : List NodeSettings} →
    (predicate.inherit flag).spellOut outer path = predicate.spellOut flag []
  | .leaf ⟨own, table⟩ test, path => by
      cases own <;> rfl
  | .node ⟨own, table⟩ connective children, path => by
      cases own with
      | some other => exact (spellOut_eq_iff _).2 (Or.inr rfl)
      | none =>
        unfold Predicate.inherit
        simp only [spellOut, spellOutAll_inheritAll flag children]
        exact congrArg _ ((spellOutAll_eq_iff children).2 (Or.inl rfl))

theorem spellOutAll_inheritAll {outer : Bool} (flag : Bool) : (children : List Predicate) →
    {path : List NodeSettings} →
    spellOutAll outer path (inheritAll flag children) = spellOutAll flag [] children
  | [], path => rfl
  | child :: children, path => by
      rw [inheritAll, spellOutAll, spellOutAll, spellOut_inherit flag child,
        spellOutAll_inheritAll flag children]

end

/-- As far as the tests are concerned, a flag need not be handed down. -/
theorem spellOut_ignoreCase (outer flag : Bool) (path : List NodeSettings)
    (predicate : Predicate) :
    (predicate.ignoreCase flag).spellOut outer path =
      (predicate.mark flag).spellOut outer path := by
  cases predicate with
  | leaf settings test => rfl
  | node settings connective children =>
    simp only [ignoreCase, mark, spellOut, spellOutAll_inheritAll, spellOutAll_below_flag]

mutual

theorem compile_spellOut (dialect : Dialect) {outer : Bool} : (predicate : Predicate) →
    {path : List NodeSettings} → {scope : Scope} →
    (predicate.spellOut outer path).compile dialect scope =
      predicate.compile dialect { scope with ignoreCase := nearestFlag path outer }
  | .leaf settings test, path, scope => by
      rw [spellOut, compile, compile, nearestFlag_cons]
      rfl
  | .node settings connective children, path, scope => by
      rw [spellOut, compile, compile, compileAll_spellOut dialect children, nearestFlag_cons]
      rfl

theorem compileAll_spellOut (dialect : Dialect) {outer : Bool} : (children : List Predicate) →
    {path : List NodeSettings} → {scope : Scope} →
    compileAll dialect scope (spellOutAll outer path children) =
      compileAll dialect { scope with ignoreCase := nearestFlag path outer } children
  | [], path, scope => rfl
  | child :: children, path, scope => by
      rw [spellOutAll, compileAll, compileAll, compile_spellOut dialect child,
        compileAll_spellOut dialect children]

end

/-- A test is compiled with the flag of the nearest node that has one. -/
theorem compile_eq_spellOut (dialect : Dialect) (scope : Scope) (predicate : Predicate) :
    predicate.compile dialect scope =
      (predicate.spellOut scope.ignoreCase []).compile dialect scope := by
  rw [compile_spellOut]
  rfl

/-- Only the flags of the tests matter. -/
theorem compile_congr {predicate other : Predicate} {scope : Scope}
    (same : predicate.spellOut scope.ignoreCase [] = other.spellOut scope.ignoreCase [])
    (dialect : Dialect) : predicate.compile dialect scope = other.compile dialect scope := by
  rw [compile_eq_spellOut, compile_eq_spellOut dialect scope other, same]

/-- Which of two calls on a predicate decides: on a test the later one. On a node the earlier one
has been handed down already. -/
def decisive (first second : Bool) : Predicate → Bool
  | .leaf _ _ => second
  | .node _ _ _ => first

theorem spellOut_ignoreCase_twice (outer first second : Bool) (path : List NodeSettings)
    (predicate : Predicate) :
    ((predicate.ignoreCase first).ignoreCase second).spellOut outer path =
      (predicate.mark (predicate.decisive first second)).spellOut outer path := by
  cases predicate with
  | leaf settings test => rfl
  | node settings connective children =>
    simp only [ignoreCase, mark, decisive, spellOut, spellOutAll_inheritAll,
      spellOutAll_below_flag]

theorem spellOut_mark_eq_iff {outer one other : Bool} {path : List NodeSettings}
    {predicate : Predicate} :
    (predicate.mark one).spellOut outer path = (predicate.mark other).spellOut outer path ↔
      one = other ∨ predicate.takesFlag = false := by
  cases predicate with
  | leaf settings test =>
    simp only [mark, spellOut, nearestFlag_cons, Option.getD_some, leaf.injEq, and_true,
      NodeSettings.mk.injEq, Option.some.injEq, takesFlag, Bool.true_eq_false, or_false]
  | node settings connective children =>
    simp only [mark, spellOut, spellOutAll_eq_iff, nearestFlag_cons, Option.getD_some, node.injEq,
      true_and, takesFlag]

end Predicate

/-- Two calls in a row leave the tests with one flag: on a test the later one, on a node the earlier
one, for every test that has no flag on its way up to the node. So the later call is obeyed just
when it is one on a test, repeats the earlier one, or finds no test to set. -/
theorem later_ignoreCase_obeyed_iff (predicate : Predicate) (first second : Bool) :
    (∀ dialect scope,
      ((predicate.ignoreCase first).ignoreCase second).compile dialect scope =
          (predicate.mark (predicate.decisive first second)).compile dialect scope ∧
        (predicate.ignoreCase second).compile dialect scope =
          (predicate.mark second).compile dialect scope) ∧
      ((∀ outer, ((predicate.ignoreCase first).ignoreCase second).spellOut outer [] =
          (predicate.ignoreCase second).spellOut outer []) ↔
        predicate.decisive first second = second ∨ predicate.takesFlag = false) := by
  refine ⟨fun dialect scope => ⟨?_, ?_⟩, ?_⟩
  · exact Predicate.compile_congr (predicate.spellOut_ignoreCase_twice _ first second []) dialect
  · exact Predicate.compile_congr (predicate.spellOut_ignoreCase _ second []) dialect
  · simp only [Predicate.spellOut_ignoreCase_twice]
    simp only [Predicate.spellOut_ignoreCase, Predicate.spellOut_mark_eq_iff, forall_const]

def notesOfTitles : TableRef :=
  { table := { name := "note", columns := [{ name := "title", type := .varchar }] } }

/-- The title is the given one, under an AND without a flag. -/
def titledNote (title : String) : Predicate :=
  (Predicate.all [.compare (.named "title") .equal title]).inTable notesOfTitles

/-- The test has no flag of its own, and the later call does not reach it. -/
theorem titledNote_folded_still :
    (((titledNote "x").ignoreCase true).ignoreCase false).build .generic =
        .ok { sql := "UPPER(note.title) = UPPER(?)", binds := [⟨.varchar, .text "x"⟩] } ∧
      ((titledNote "x").ignoreCase false).build .generic =
        .ok { sql := "note.title = ?", binds := [⟨.varchar, .text "x"⟩] } := by
  constructor <;> rfl

end PreparedSql
