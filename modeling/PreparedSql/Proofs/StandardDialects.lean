import PreparedSql.Dialect.Standard
import PreparedSql.Proofs.Characters

/-! What the four known dialects add to a statement: they all fold case by `UPPER(…)`, and their
operators and limits are plain words and numbers. -/

namespace PreparedSql

theorem harmless_limitOffset (limit offset : Option Nat) :
    Harmless (limitOffset limit offset) := by
  unfold limitOffset
  refine Avoids.append ?_ ?_
  · cases limit with
    | none => decide
    | some count => exact Avoids.append (by decide) (harmless_decimal count)
  · cases offset with
    | none => decide
    | some count => exact Avoids.append (by decide) (harmless_decimal count)

namespace Dialect

variable {dialect : Dialect}

theorem mem_standard : dialect ∈ standard ↔
    dialect = generic ∨ dialect = sqlite ∨ dialect = postgres ∨ dialect = mysql := by
  simp [standard]

theorem foldCase_of_standard (known : dialect ∈ standard) (sql : String) :
    dialect.foldCase sql = "UPPER(" ++ sql ++ ")" := by
  rcases mem_standard.1 known with rfl | rfl | rfl | rfl <;> rfl

theorem foldOrder_of_standard (known : dialect ∈ standard) (sql : String) :
    dialect.foldOrder sql = "UPPER(" ++ sql ++ ")" := by
  rcases mem_standard.1 known with rfl | rfl | rfl | rfl <;> rfl

theorem foldedOperator_of_standard (known : dialect ∈ standard) {operator : Comparison}
    {folded : String} (own : dialect.foldedOperator operator = some folded) :
    folded = "ILIKE" ∨ folded = "NOT ILIKE" := by
  rcases mem_standard.1 known with rfl | rfl | rfl | rfl
  · cases own
  · cases own
  · cases operator <;> cases own
    · exact Or.inl rfl
    · exact Or.inr rfl
  · cases own

theorem limitClause_of_standard (known : dialect ∈ standard) {limit offset : Option Nat}
    {clause : String} (written : dialect.limitClause limit offset = .ok clause) :
    Harmless clause := by
  rcases mem_standard.1 known with rfl | rfl | rfl | rfl
  · cases written
    exact harmless_limitOffset limit offset
  · cases limit <;> cases offset <;> cases written
    · exact harmless_limitOffset none none
    · exact Avoids.append (by decide) (harmless_decimal _)
    · exact harmless_limitOffset _ none
    · exact harmless_limitOffset _ _
  · cases written
    exact harmless_limitOffset limit offset
  · cases limit <;> cases offset <;> cases written
    · decide
    · exact Avoids.append (Avoids.append (Avoids.append (by decide) (harmless_decimal _))
        (by decide)) (harmless_decimal _)
    · exact Avoids.append (by decide) (harmless_decimal _)
    · exact Avoids.append (Avoids.append (Avoids.append (by decide) (harmless_decimal _))
        (by decide)) (harmless_decimal _)

end Dialect

end PreparedSql
