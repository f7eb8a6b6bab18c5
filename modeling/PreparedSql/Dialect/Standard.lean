import PreparedSql.Dialect.Basic
import PreparedSql.Text.Ascii

/-! The four dialects that are known by name. -/

namespace PreparedSql

namespace Dialect

def generic : Dialect :=
  { name := "generic" }

/-- An offset needs a limit in front of it; a negative one limits nothing. -/
def sqlite : Dialect :=
  { name := "sqlite"
    limitClause := fun
      | none, some offset => .ok (" LIMIT -1 OFFSET " ++ Number.decimal offset)
      | limit, offset => .ok (limitOffset limit offset) }

/-- Pattern matching has operators that ignore case. -/
def postgres : Dialect :=
  { name := "postgres"
    foldedOperator := fun
      | .like => some "ILIKE"
      | .notLike => some "NOT ILIKE"
      | _ => none }

/-- The offset stands in front of the limit; the greatest row count limits nothing. -/
def mysql : Dialect :=
  { name := "mysql"
    limitClause := fun
      | some limit, some offset =>
          .ok (" LIMIT " ++ Number.decimal offset ++ ", " ++ Number.decimal limit)
      | some limit, none => .ok (" LIMIT " ++ Number.decimal limit)
      | none, some offset =>
          .ok (" LIMIT " ++ Number.decimal offset ++ ", " ++ Number.decimal (UInt64.size - 1))
      | none, none => .ok ""
    limitInMembership := false }

def standard : List Dialect :=
  [generic, sqlite, postgres, mysql]

/-- The dialect of a name in any ASCII case; PostgreSQL goes by three names. -/
def byName? (name : String) : Option Dialect :=
  match Text.lowercase name with
  | "generic" => some generic
  | "sqlite" => some sqlite
  | "postgres" | "postgresql" | "pgsql" => some postgres
  | "mysql" => some mysql
  | _ => none

end Dialect

end PreparedSql
