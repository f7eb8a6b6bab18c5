import PreparedSql.Number.Decimal

/-! Characters that a text does without: what is added between the caller's own texts brings no
quote, no parenthesis and no placeholder along. -/

namespace PreparedSql

/-- None of the characters occurs in the text. -/
def Avoids (marks : List Char) (sql : String) : Prop :=
  ∀ character ∈ sql.toList, character ∉ marks

instance (marks : List Char) (sql : String) : Decidable (Avoids marks sql) :=
  List.decidableBAll (· ∉ marks) sql.toList

namespace Avoids

variable {marks : List Char}

theorem append {first second : String} (front : Avoids marks first)
    (back : Avoids marks second) : Avoids marks (first ++ second) := by
  unfold Avoids
  rw [String.toList_append]
  exact List.forall_mem_append.2 ⟨front, back⟩

theorem mono {fewer : List Char} {sql : String} (avoids : Avoids marks sql)
    (subset : fewer ⊆ marks) : Avoids fewer sql := by
  intro character member special
  exact avoids character member (subset special)

end Avoids

/-- No quote, no parenthesis and no `?`. -/
abbrev Harmless (sql : String) : Prop :=
  Avoids ['\'', '"', '(', ')', '?'] sql

theorem harmless_decimal (number : Nat) : Harmless (Number.decimal number) := by
  intro character member special
  have written : character ∈ Number.digits number := by
    simpa only [Number.decimal, String.toList_ofList] using member
  have digit := Number.isDigit_of_mem_digits written
  simp only [List.mem_cons, List.not_mem_nil, or_false] at special
  rcases special with rfl | rfl | rfl | rfl | rfl <;> revert digit <;> decide

end PreparedSql
