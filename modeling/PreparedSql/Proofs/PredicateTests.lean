import PreparedSql.Predicate.Build

/-! The tests of a predicate, at any depth below its connectives. -/

namespace PreparedSql

namespace Predicate

mutual

def tests : Predicate → List Test
  | .leaf _ test => [test]
  | .node _ _ children => testsOfAll children

def testsOfAll : List Predicate → List Test
  | [] => []
  | child :: children => child.tests ++ testsOfAll children

end

theorem testsOfAll_eq_flatMap (children : List Predicate) :
    testsOfAll children = children.flatMap tests := by
  induction children with
  | nil => rfl
  | cons child children ih => simp only [testsOfAll, List.flatMap_cons, ih]

mutual

theorem isEmpty_iff : (predicate : Predicate) →
    (predicate.isEmpty = true ↔ predicate.tests = [])
  | .leaf _ _ => ⟨nofun, nofun⟩
  | .node _ _ children => allEmpty_iff children

/-- A list of predicates asks for nothing just when no test is among them. -/
theorem allEmpty_iff : (children : List Predicate) →
    (allEmpty children = true ↔ testsOfAll children = [])
  | [] => ⟨fun _ => rfl, fun _ => rfl⟩
  | child :: children => by
      rw [allEmpty, testsOfAll, Bool.and_eq_true, List.append_eq_nil_iff, isEmpty_iff child,
        allEmpty_iff children]

end

end Predicate

end PreparedSql
