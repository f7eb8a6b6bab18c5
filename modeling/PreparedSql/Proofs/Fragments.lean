import PreparedSql.Query.Compile
import PreparedSql.Statement

/-! Pieces of a statement inside others. However pieces are put together, each of them keeps its
text and its parameters in one stretch. -/

namespace PreparedSql

namespace Fragment

/-- The piece stands in the whole: its text in one stretch, and its parameters likewise. -/
def Contains (whole piece : Fragment) : Prop :=
  ∃ front back, whole = front ++ piece ++ back

theorem append_assoc (first second third : Fragment) :
    first ++ second ++ third = first ++ (second ++ third) :=
  Fragment.ext String.append_assoc (List.append_assoc _ _ _)

theorem append_text_empty (piece : Fragment) : piece ++ text "" = piece :=
  Fragment.ext String.append_empty (List.append_nil _)

theorem join_cons_cons (separator : String) (first second : Fragment) (rest : List Fragment) :
    join separator (first :: second :: rest) =
      first ++ (text separator ++ join separator (second :: rest)) := by
  apply Fragment.ext
  · simp only [sql_join, sql_append, sql_text, List.map_cons, String.intercalate_cons_cons,
      String.append_assoc]
  · simp only [binds_join, binds_append, binds_text, List.flatMap_cons, List.nil_append]

theorem join_singleton (separator : String) (only : Fragment) : join separator [only] = only := by
  apply Fragment.ext
  · simp only [sql_join, List.map_cons, List.map_nil, String.intercalate_singleton]
  · simp only [binds_join, List.flatMap_singleton]

/-- The pieces with the separator in front of each. -/
def following (separator : String) : List Fragment → Fragment
  | [] => text ""
  | piece :: pieces => text separator ++ (piece ++ following separator pieces)

theorem join_cons (separator : String) (first : Fragment) (rest : List Fragment) :
    join separator (first :: rest) = first ++ following separator rest := by
  induction rest generalizing first with
  | nil => rw [join_singleton, following, append_text_empty]
  | cons second others ih => rw [join_cons_cons, ih, following]

namespace Contains

variable {whole middle piece : Fragment}

theorem refl (piece : Fragment) : piece.Contains piece := by
  refine ⟨text "", text "", ?_⟩
  apply Fragment.ext
  · simp only [sql_append, sql_text, String.empty_append, String.append_empty]
  · simp only [binds_append, binds_text, List.nil_append, List.append_nil]

theorem append_right (holds : whole.Contains piece) (other : Fragment) :
    (whole ++ other).Contains piece := by
  obtain ⟨front, back, rfl⟩ := holds
  exact ⟨front, back ++ other, append_assoc _ _ _⟩

theorem append_left (holds : whole.Contains piece) (other : Fragment) :
    (other ++ whole).Contains piece := by
  obtain ⟨front, back, rfl⟩ := holds
  refine ⟨other ++ front, back, ?_⟩
  simp only [append_assoc]

theorem trans (outside : whole.Contains middle) (inside : middle.Contains piece) :
    whole.Contains piece := by
  obtain ⟨front, back, rfl⟩ := outside
  exact (inside.append_left front).append_right back

theorem join {pieces : List Fragment} (member : piece ∈ pieces) (separator : String) :
    (join separator pieces).Contains piece := by
  induction pieces with
  | nil => cases member
  | cons first rest ih =>
    cases rest with
    | nil =>
      rw [List.mem_singleton.1 member, join_singleton]
      exact refl first
    | cons second others =>
      rw [join_cons_cons]
      rcases List.mem_cons.1 member with rfl | later
      · exact (refl piece).append_right _
      · exact ((ih later).append_left _).append_left _

theorem parenthesized (piece : Fragment) : (parenthesized piece).Contains piece :=
  ((refl piece).append_left _).append_right _

theorem combine {pieces : List Fragment} (member : piece ∈ pieces) (connective : Connective) :
    (connective.combine pieces).Contains piece := by
  match pieces, member with
  | [only], member =>
    rw [List.mem_singleton.1 member]
    exact refl only
  | first :: second :: others, member =>
    exact (parenthesized _).trans (join member connective.separator)

theorem conditionClause {conditions : List Fragment} (member : piece ∈ conditions)
    (keyword : String) : (conditionClause keyword conditions).Contains piece := by
  match conditions, member with
  | first :: others, member => exact (join member " AND ").append_left _

end Contains

end Fragment

/-- The statement as a piece of another one. -/
def Statement.fragment (statement : Statement) : Fragment :=
  ⟨statement.sql, statement.binds⟩

@[simp] theorem Statement.sql_fragment (statement : Statement) :
    statement.fragment.sql = statement.sql := rfl

@[simp] theorem Statement.binds_fragment (statement : Statement) :
    statement.fragment.binds = statement.binds := rfl

end PreparedSql
