import PreparedSql.Calendar.Format
import PreparedSql.Error
import PreparedSql.Operator

/-! What databases disagree on. A statement has one shape for all of them; a dialect says how
case is folded, how rows are limited, what is missing, and how dates and times are written. -/

namespace PreparedSql

/-- ` LIMIT n` and ` OFFSET m`, each when it is given. -/
def limitOffset (limit offset : Option Nat) : String :=
  let limited := match limit with
    | some count => " LIMIT " ++ Number.decimal count
    | none => ""
  let skipped := match offset with
    | some count => " OFFSET " ++ Number.decimal count
    | none => ""
  limited ++ skipped

structure Dialect where
  name : String
  /-- The expression with its case folded, for comparisons. -/
  foldCase : String → String := fun sql => "UPPER(" ++ sql ++ ")"
  /-- The expression with its case folded, for sorting. -/
  foldOrder : String → String := foldCase
  /-- An operator that ignores case by itself, used in place of folding both sides. -/
  foldedOperator : Comparison → Option String := fun _ => none
  /-- The text that is appended to a SELECT for a limit and an offset, or what the dialect is
  lacking. Rows are limited by appending alone: a dialect that rewrites the statement, or looks at
  its text to choose the clause, is not covered. -/
  limitClause : Option Nat → Option Nat → Except String String :=
    fun limit offset => .ok (limitOffset limit offset)
  /-- A sub-query may stand in FROM. -/
  derivedTables : Bool := true
  /-- A sub-query behind IN may carry a limit. -/
  limitInMembership : Bool := true
  dateFormat : Calendar.Format := .isoDate
  timeFormat : Calendar.Format := .isoTime
  timestampFormat : Calendar.Format := .isoTimestamp

namespace Dialect

def unsupported {α : Type} (dialect : Dialect) (feature : String) : Except CompileError α :=
  .error (.unsupported dialect.name feature)

/-- The text behind a SELECT with a limit and an offset. -/
def limiting (dialect : Dialect) (limit offset : Option Nat) : Except CompileError String :=
  match dialect.limitClause limit offset with
  | .ok clause => .ok clause
  | .error feature => dialect.unsupported feature

def limited (dialect : Dialect) (sql : String) (limit offset : Option Nat) :
    Except CompileError String :=
  (dialect.limiting limit offset).map (sql ++ ·)

/-- Whether a sub-query may stand in FROM. -/
def checkDerivedTable (dialect : Dialect) : Except CompileError Unit :=
  if dialect.derivedTables then .ok () else dialect.unsupported "sub-queries in FROM"

/-- Whether a sub-query may stand behind IN, given that it has a limit or offset. -/
def checkMembership (dialect : Dialect) (limited : Bool) : Except CompileError Unit :=
  if limited && !dialect.limitInMembership then
    dialect.unsupported "LIMIT inside an IN sub-query"
  else .ok ()

end Dialect

end PreparedSql
