import PreparedSql.Bind.Basic

/-! Pieces of a statement: SQL text together with the parameters of its placeholders, which
stand in the same order. -/

namespace PreparedSql

@[ext]
structure Fragment where
  sql : String
  binds : List Bind := []
  deriving DecidableEq, Repr, Inhabited

namespace Fragment

/-- Text without a placeholder of its own. -/
def text (sql : String) : Fragment :=
  { sql }

instance : Append Fragment :=
  ⟨fun first second => ⟨first.sql ++ second.sql, first.binds ++ second.binds⟩⟩

/-- The pieces one after the other, with the separator between them. -/
def join (separator : String) (pieces : List Fragment) : Fragment :=
  { sql := separator.intercalate (pieces.map Fragment.sql)
    binds := pieces.flatMap Fragment.binds }

@[simp] theorem sql_append (first second : Fragment) :
    (first ++ second).sql = first.sql ++ second.sql := rfl

@[simp] theorem binds_append (first second : Fragment) :
    (first ++ second).binds = first.binds ++ second.binds := rfl

@[simp] theorem sql_text (sql : String) : (text sql).sql = sql := rfl

@[simp] theorem binds_text (sql : String) : (text sql).binds = [] := rfl

@[simp] theorem sql_join (separator : String) (pieces : List Fragment) :
    (join separator pieces).sql = separator.intercalate (pieces.map Fragment.sql) := rfl

@[simp] theorem binds_join (separator : String) (pieces : List Fragment) :
    (join separator pieces).binds = pieces.flatMap Fragment.binds := rfl

end Fragment

end PreparedSql
